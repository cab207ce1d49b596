import EntitlementClient.Operation.Basic

/-!
# `EntitlementClient.Catalogue.Consumers`: consumers, their guests and hypervisors

An operation on a consumer takes the consumer's uuid. Its default is the uuid of the
client's own consumer, so that a registered client works on itself without naming it.
-/

set_option autoImplicit false

namespace EntitlementClient.Consumers

open Operation

/-! ### Consumer types -/

/-- Creates a consumer type. -/
def createConsumerType : Operation :=
  { method := .post
    parameters := [("label", .absent), ("manifest", .flag false)]
    path := [.text "/consumertypes"]
    body := some (.compacted [.allFields]) }

/-- Gets all consumer types. -/
def getAllConsumerTypes : Operation := fixed .get "/consumertypes"

/-- Gets a consumer type. -/
def getConsumerType : Operation := getById "/consumertypes" "type_id"

/-- Deletes a consumer type. -/
def deleteConsumerType : Operation := deleteById "/consumertypes" "type_id"

/-! ### Consumers -/

/-- The parameter for the consumer's uuid. -/
def uuidParameter : String × Default := ("uuid", .consumerUuid)

/-- The path of a consumer and what is below it. -/
def consumerPath (suffix : String) : List PathPart :=
  [.text "/consumers/", .option "uuid", .text suffix]

/-- A request on a consumer that takes no other option than the uuid. -/
def onConsumer (method : Method) (suffix : String) : Operation :=
  { method := method, parameters := [uuidParameter], path := consumerPath suffix }

/-- Registers a consumer, in an environment if one is named. The activation keys travel as
one query pair. -/
def register : Operation :=
  { method := .post
    parameters :=
      [("name", .absent), ("type", .text "system"), uuidParameter, ("facts", .emptyObject),
        ("username", .absent), ("owner", .absent), ("activation_keys", .emptyList),
        ("installed_products", .emptyList), ("environment", .absent),
        ("capabilities", .emptyList), ("hypervisor_id", .absent)]
    path := [.whenSet "/environments/" "environment", .text "/consumers"]
    query := [.options ["username", "owner"], .joined "activation_keys" "activation_keys"]
    body := some (.compacted
      [.member "type" "type" (.memberOf "label"), .fields ["name", "facts", "uuid"],
        .member "hypervisorId" "hypervisor_id" (.reference "hypervisorId"),
        .memberIfAny "capabilities" "capabilities" (.named "name"),
        .member "installedProducts" "installed_products" .idReferences]) }

/-- Binds entitlements to a consumer. The quantity is 1 unless the call names a product,
and the date is the current one unless it names a pool. -/
def bindEntitlements : Operation :=
  { method := .post
    parameters :=
      [uuidParameter, ("product", .absent), ("quantity", .unlessSupplied "product" .one),
        ("async", .flag false), ("entitle_date", .unlessSupplied "pool" (.daysAhead 0)),
        ("pool", .absent)]
    requirements := [.present ["uuid"]]
    path := consumerPath "/entitlements"
    query := [.options ["product", "quantity", "async", "entitle_date", "pool"]] }

/-- Removes the record that a consumer was deleted. -/
def deleteDeletionRecord : Operation :=
  below .delete "/consumers" "deleted_uuid" "/deletionrecord"

/-- Revokes all entitlements of a consumer. -/
def deleteAllEntitlements : Operation := onConsumer .delete "/entitlements"

/-- Revokes an entitlement of a consumer. -/
def deleteEntitlement : Operation :=
  { method := .delete
    parameters := [uuidParameter, ("entitlement_id", .absent)]
    requirements := [.allPresent]
    path := consumerPath "/entitlements/" ++ [.option "entitlement_id"] }

/-- Deletes a consumer. -/
def deleteConsumer : Operation := onConsumer .delete ""

/-- Replaces what can change of a consumer. -/
def updateConsumer : Operation :=
  { method := .put
    parameters :=
      [uuidParameter, ("facts", .emptyObject), ("installed_products", .emptyList),
        ("hypervisor_id", .absent), ("guest_ids", .emptyList), ("autoheal", .flag true),
        ("service_level", .absent), ("capabilities", .emptyList)]
    path := consumerPath ""
    body := some (.compacted
      [.allFields, .member "installedProducts" "installed_products" .list,
        .member "hypervisorId" "hypervisor_id" (.reference "hypervisorId"),
        .member "guestIds" "guest_ids" (.named "guestId"),
        .member "capabilities" "capabilities" (.named "name")]) }

/-- Gets a consumer. -/
def getConsumer : Operation := onConsumer .get ""

/-- Gets the events of a consumer. -/
def getConsumerEvents : Operation := onConsumer .get "/events"

/-- Gets the host of a consumer. -/
def getConsumerHost : Operation := onConsumer .get "/host"

/-- Gets the guests of a consumer. -/
def getConsumerGuests : Operation := onConsumer .get "/guests"

/-- Gets the events of a consumer as a feed. -/
def getConsumerEventsAtom : Operation := (onConsumer .get "/atom").accepting textPlain

/-- Gets the serials of a consumer's certificates. -/
def getConsumerCertSerials : Operation := onConsumer .get "/certificates/serials"

/-- Gets the consumers deleted since a date. -/
def getDeletedConsumers : Operation :=
  { method := .get
    parameters := optional ["date"]
    path := [.text "/deleted_consumers"]
    query := [.options ["date"]] }

/-! ### Guests and hypervisors -/

/-- The path of a guest. -/
def guestPath : List PathPart := consumerPath "/guestids/" ++ [.option "guest_id"]

/-- Replaces the list of a consumer's guests. -/
def updateAllGuestIds : Operation :=
  { method := .put
    parameters := [uuidParameter, ("guest_ids", .emptyList)]
    path := consumerPath "/guestids"
    body := some (.bare "guest_ids" (.named "guestId")) }

/-- Adds a guest or updates it. -/
def updateGuestId : Operation :=
  { method := .put
    parameters := [uuidParameter, ("guest_id", .absent)]
    requirements := [.present ["uuid", "guest_id"]]
    path := guestPath
    body := some (.verbatim [.fields ["guest_id"]]) }

/-- Gets the ids of a consumer's guests. -/
def getAllGuestIds : Operation := onConsumer .get "/guestids"

/-- Gets a guest. -/
def getGuestId : Operation :=
  { method := .get
    parameters := [uuidParameter, ("guest_id", .absent)]
    requirements := [.allPresent]
    path := guestPath }

/-- Removes a guest, and its own registration if that is asked for. -/
def deleteGuestId : Operation :=
  { method := .delete
    parameters := [uuidParameter, ("guest_id", .absent), ("unregister", .flag false)]
    requirements := [.present ["uuid", "guest_id"]]
    path := guestPath
    query := [.options ["unregister"]] }

/-- Reports which guests run on which hypervisor. The mapping is sent unchanged. -/
def postHypervisorCheckIn : Operation :=
  { method := .post
    parameters :=
      [("owner", .absent), ("host_guest_mapping", .emptyObject), ("create_missing", .absent)]
    path := [.text "/hypervisors"]
    query := [.options ["owner", "create_missing"]]
    body := some (.bare "host_guest_mapping" .same) }

/-- The operations with their names. -/
def catalogue : List (String × Operation) :=
  [("create_consumer_type", createConsumerType), ("get_all_consumer_types", getAllConsumerTypes),
    ("get_consumer_type", getConsumerType), ("delete_consumer_type", deleteConsumerType),
    ("register", register), ("bind", bindEntitlements),
    ("delete_deletion_record", deleteDeletionRecord),
    ("delete_all_entitlements", deleteAllEntitlements), ("delete_entitlement", deleteEntitlement),
    ("delete_consumer", deleteConsumer), ("update_consumer", updateConsumer),
    ("get_consumer", getConsumer), ("get_consumer_events", getConsumerEvents),
    ("get_consumer_host", getConsumerHost), ("get_consumer_guests", getConsumerGuests),
    ("get_consumer_events_atom", getConsumerEventsAtom),
    ("get_consumer_cert_serials", getConsumerCertSerials),
    ("update_all_guest_ids", updateAllGuestIds), ("update_guest_id", updateGuestId),
    ("get_all_guest_ids", getAllGuestIds), ("get_guest_id", getGuestId),
    ("delete_guest_id", deleteGuestId), ("get_deleted_consumers", getDeletedConsumers),
    ("post_hypervisor_check_in", postHypervisorCheckIn)]

end EntitlementClient.Consumers
