import EntitlementClient.Http.Reply
import EntitlementClient.Proofs.Outcome

/-!
# `EntitlementClient.Proofs.Http.Frames`: a body is put together within its limit

`collect` reads the frames of a body one after the other. The step lemma is
`collect_cons`: as long as no more than the limit is held, a frame is added when what is
held then stays within the limit, and otherwise the body is refused with the length that
the frame would lead to. Reading can be looked at after any number of frames
(`collect_append`).

`collect_comesTo` says what comes of a whole body. It is read when it stays within the
limit, however it is cut into frames, and otherwise refused with the length up to the
first frame that goes beyond (`Crosses`). What is held is within the limit after every
frame that was read.

Lengths are natural numbers, so no sum of them is cut off.
-/

set_option autoImplicit false

namespace EntitlementClient

variable {limit : Nat} {held : List UInt8} {frames : List Frame}

/-! ### Frame by frame -/

/-- While no more than the limit is held, a frame is added if all of it fits. Trailers are
like a frame without bytes. -/
theorem collect_cons (h : held.length ≤ limit) (frame : Frame) (rest : List Frame) :
    collect limit held (frame :: rest) =
      if held.length + frame.bytes.length ≤ limit then collect limit (held ++ frame.bytes) rest
      else .error (.bodyTooLarge limit (held.length + frame.bytes.length)) := by
  cases frame with
  | trailers =>
    show collect limit held rest = _
    rw [Frame.bytes, List.append_nil, List.length_nil, Nat.add_zero, if_pos h]
  | data bytes =>
    rw [collect, Frame.bytes]
    by_cases hfits : held.length + bytes.length ≤ limit
    · rw [if_neg (by omega), if_pos hfits]
    · rw [if_pos (by omega), if_neg hfits]

/-- After some of the frames, reading goes on with what is held then, or has failed. So a body can
be judged at any of its frames. -/
theorem collect_append {before after : List Frame} :
    collect limit held (before ++ after) =
      collect limit held before >>= fun kept => collect limit kept after := by
  induction before generalizing held with
  | nil => rfl
  | cons frame rest ih =>
    cases frame with
    | trailers => exact ih
    | data bytes =>
      rw [List.cons_append, collect, collect]
      split
      · rfl
      · exact ih

/-- Frames that stay within the limit are put together, behind what is held already. -/
theorem collect_of_le
    (h : held.length + (frames.flatMap Frame.bytes).length ≤ limit) :
    collect limit held frames = .ok (held ++ frames.flatMap Frame.bytes) := by
  induction frames generalizing held with
  | nil => rw [collect, List.flatMap_nil, List.append_nil]
  | cons frame rest ih =>
    rw [List.flatMap_cons, List.length_append] at h
    have hmore : (held ++ frame.bytes).length + (rest.flatMap Frame.bytes).length ≤ limit := by
      rw [List.length_append]
      omega
    rw [collect_cons (by omega), if_pos (by omega), ih hmore, List.append_assoc, List.flatMap_cons]

/-! ### Beyond the limit -/

/-- The length up to the first frame that goes beyond the limit, and with that frame. -/
inductive Crosses (limit : Nat) : List Frame → Nat → Prop where
  | intro {before after : List Frame} {bytes : List UInt8}
      (hbefore : (before.flatMap Frame.bytes).length ≤ limit)
      (hcross : limit < (before.flatMap Frame.bytes).length + bytes.length) :
      Crosses limit (before ++ .data bytes :: after)
        ((before.flatMap Frame.bytes).length + bytes.length)

namespace Crosses

variable {actual : Nat}

/-- The length is beyond the limit, and not beyond that of the body. -/
theorem bounds (h : Crosses limit frames actual) :
    limit < actual ∧ actual ≤ (frames.flatMap Frame.bytes).length := by
  obtain ⟨hbefore, hcross⟩ := h
  refine ⟨hcross, ?_⟩
  rw [List.flatMap_append, List.flatMap_cons, List.length_append, List.length_append, Frame.bytes]
  omega

/-- A body that goes beyond the limit is refused with the length at which it does. -/
theorem collect_eq (h : Crosses limit frames actual) :
    collect limit [] frames = .error (.bodyTooLarge limit actual) := by
  obtain ⟨hbefore, hcross⟩ := h
  -- The frames before the one that is too long are all read.
  have hread : collect limit [] _ = .ok _ := collect_of_le (by simpa using hbefore)
  rw [collect_append, hread]
  exact (collect_cons hbefore _ _).trans (if_neg (Nat.not_le.mpr hcross))

end Crosses

/-- A body that is longer than the limit goes beyond it with one of its frames. The induction goes
over the frames, with the limit generalised: what the first frame takes of it is not there for the
rest. -/
theorem exists_crosses (h : limit < (frames.flatMap Frame.bytes).length) :
    ∃ actual, Crosses limit frames actual := by
  -- What the first frame takes of the limit is not there for the rest.
  induction frames generalizing limit with
  | nil => exact absurd h (Nat.not_lt_zero limit)
  | cons frame rest ih =>
    rw [List.flatMap_cons, List.length_append] at h
    by_cases hfits : frame.bytes.length ≤ limit
    · have hrest : limit - frame.bytes.length < (rest.flatMap Frame.bytes).length := by omega
      obtain ⟨_, hcrosses⟩ := ih hrest
      cases hcrosses with
      | @intro before after bytes hbefore hcross =>
        have hlength : ((frame :: before).flatMap Frame.bytes).length =
            frame.bytes.length + (before.flatMap Frame.bytes).length := by
          rw [List.flatMap_cons, List.length_append]
        exact ⟨_, @Crosses.intro limit (frame :: before) after bytes (by omega) (by omega)⟩
    · cases frame with
      | trailers => exact absurd (Nat.zero_le limit) hfits
      | data bytes =>
        have hcross : limit < ([].flatMap Frame.bytes).length + bytes.length := by
          rw [List.flatMap_nil, List.length_nil, Nat.zero_add]
          exact Nat.not_le.mp hfits
        exact ⟨_, @Crosses.intro limit [] rest bytes (Nat.zero_le limit) hcross⟩

/-! ### Whole bodies -/

/-- Bytes are read exactly when they are those of the frames and stay within the limit. How the
frames cut them does not matter. -/
theorem collect_eq_ok_iff {body : List UInt8} :
    collect limit [] frames = .ok body ↔
      body = frames.flatMap Frame.bytes ∧ body.length ≤ limit := by
  rcases Nat.lt_or_ge limit (frames.flatMap Frame.bytes).length with hlt | hle
  · obtain ⟨_, hcrosses⟩ := exists_crosses hlt
    rw [hcrosses.collect_eq]
    refine iff_of_false (fun heq => nomatch heq) ?_
    rintro ⟨rfl, hle⟩
    omega
  · have hread : collect limit [] frames = .ok _ := collect_of_le (by simpa using hle)
    rw [hread, List.nil_append, Except.ok.injEq]
    constructor
    · rintro rfl
      exact ⟨rfl, hle⟩
    · rintro ⟨rfl, -⟩
      rfl

/-- A body is refused exactly when it goes beyond the limit, with the length at which it does.
That length depends on how the frames cut it. -/
theorem collect_eq_error_iff {e : TransportError} :
    collect limit [] frames = .error e ↔
      ∃ actual, Crosses limit frames actual ∧ e = .bodyTooLarge limit actual := by
  constructor
  · intro h
    have hlt : limit < (frames.flatMap Frame.bytes).length := by
      refine Nat.lt_of_not_le fun hle => ?_
      rw [collect_eq_ok_iff.mpr ⟨rfl, hle⟩] at h
      cases h
    obtain ⟨actual, hcrosses⟩ := exists_crosses hlt
    rw [hcrosses.collect_eq, Except.error.injEq] at h
    exact ⟨actual, hcrosses, h.symm⟩
  · rintro ⟨actual, hcrosses, rfl⟩
    exact hcrosses.collect_eq

/-- Take a body in any frames, with any limit.

* The bytes of all frames are read exactly when there are no more of them than the limit.
* Otherwise the body is refused with the limit and with the length up to the first frame
  that goes beyond it.
* The same bytes in other frames are read or refused alike.
* After any number of frames, either no more than the limit is held and reading goes on
  from there, or the body has been refused. -/
theorem collect_comesTo (limit : Nat) (frames : List Frame) :
    (∀ body, collect limit [] frames = .ok body ↔
      body = frames.flatMap Frame.bytes ∧ body.length ≤ limit) ∧
    (∀ e, collect limit [] frames = .error e ↔
      ∃ actual, Crosses limit frames actual ∧ e = .bodyTooLarge limit actual) ∧
    (∀ others : List Frame, others.flatMap Frame.bytes = frames.flatMap Frame.bytes →
      ∀ body, collect limit [] others = .ok body ↔ collect limit [] frames = .ok body) ∧
    ∀ n, (∃ held, collect limit [] (frames.take n) = .ok held ∧ held.length ≤ limit ∧
        collect limit [] frames = collect limit held (frames.drop n)) ∨
      ∃ e, collect limit [] (frames.take n) = .error e ∧ collect limit [] frames = .error e := by
  refine ⟨fun _ => collect_eq_ok_iff, fun _ => collect_eq_error_iff, ?_, fun n => ?_⟩
  · intro others hsame body
    rw [collect_eq_ok_iff, collect_eq_ok_iff, hsame]
  · have hsplit : collect limit [] frames =
        collect limit [] (frames.take n) >>= fun kept => collect limit kept (frames.drop n) := by
      rw [← collect_append, List.take_append_drop]
    rw [hsplit]
    cases hread : collect limit [] (frames.take n) with
    | ok held => exact Or.inl ⟨held, rfl, (collect_eq_ok_iff.mp hread).2, rfl⟩
    | error e => exact Or.inr ⟨e, rfl, rfl⟩

/-- Six bytes with trailers and an empty frame among them, and the same bytes in one
frame. Both are read when there is room for six bytes, and refused when there is room for
one, with the length up to the frame that does not fit. -/
theorem collect_comesTo_recut :
    let frames : List Frame := [.data [1, 2], .trailers, .data [], .data [3, 4, 5, 6], .data []]
    let others : List Frame := [.data [1, 2, 3, 4, 5, 6]]
    others.flatMap Frame.bytes = frames.flatMap Frame.bytes ∧
      collect 6 [] frames = .ok [1, 2, 3, 4, 5, 6] ∧
      collect 6 [] others = .ok [1, 2, 3, 4, 5, 6] ∧
      collect 1 [] frames = .error (.bodyTooLarge 1 2) ∧
      collect 1 [] others = .error (.bodyTooLarge 1 6) := by
  intro frames others
  obtain ⟨hread, -, hsame, -⟩ := collect_comesTo 6 frames
  have hwhole : collect 6 [] frames = .ok [1, 2, 3, 4, 5, 6] := (hread _).mpr ⟨rfl, by decide⟩
  have hframes : Crosses 1 frames 2 :=
    @Crosses.intro 1 [] [.trailers, .data [], .data [3, 4, 5, 6], .data []] [1, 2] (by decide)
      (by decide)
  have hothers : Crosses 1 others 6 :=
    @Crosses.intro 1 [] [] [1, 2, 3, 4, 5, 6] (by decide) (by decide)
  exact ⟨rfl, hwhole, (hsame others rfl _).mpr hwhole,
    ((collect_comesTo 1 frames).2.1 _).mpr ⟨2, hframes, rfl⟩,
    ((collect_comesTo 1 others).2.1 _).mpr ⟨6, hothers, rfl⟩⟩

end EntitlementClient
