import EntitlementClient.Error

/-!
# `EntitlementClient.Proofs.Error`: errors about options

Three kinds of errors are about the options of a call (`ClientError.IsLocal`), and two of
them are about the values of declared options (`RejectsValues`). An error of the transport
is none of these (`not_isLocal_ofTransport`).
-/

set_option autoImplicit false

namespace EntitlementClient.ClientError

/-- An error about the options of a call. -/
def IsLocal : ClientError → Prop
  | .unknownParameter _ | .missingRequiredParameter _ | .argument _ => True
  | _ => False

/-- An error about the values of declared options. -/
def RejectsValues : ClientError → Prop
  | .missingRequiredParameter _ | .argument (.notASegment _) => True
  | _ => False

/-- An error about values is an error about options. -/
theorem RejectsValues.isLocal {e : ClientError} (h : e.RejectsValues) : e.IsLocal := by
  cases e with
  | missingRequiredParameter keys => exact trivial
  | argument problem => exact trivial
  | _ => exact h.elim

/-- An error of the transport is not one about options. So the two can be told apart by the error
alone. -/
theorem not_isLocal_ofTransport (problem : TransportError) :
    ¬ (ofTransport problem).IsLocal := by
  cases problem <;> exact id

/-- An error of the transport is not one about an absent key. -/
theorem ofTransport_ne_missingKey (problem : TransportError) (keys : List String) :
    ofTransport problem ≠ .missingKey keys := by
  cases problem <;> exact fun h => nomatch h

end EntitlementClient.ClientError
