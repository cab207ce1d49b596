import EntitlementClient.Catalogue.Access
import EntitlementClient.Catalogue.Consumers
import EntitlementClient.Catalogue.Delivery
import EntitlementClient.Catalogue.Environments
import EntitlementClient.Catalogue.Owners
import EntitlementClient.Catalogue.Products
import EntitlementClient.Catalogue.Service

/-!
# `EntitlementClient.Catalogue`: all operations by name

`Operation.all` lists every operation that is one request, with the name under which
callers ask for it. `Operation.named?` looks an operation up.
-/

set_option autoImplicit false

namespace EntitlementClient.Operation

/-- All operations that are one request, with their names. -/
def all : List (String × Operation) :=
  Service.catalogue ++ Consumers.catalogue ++ Environments.catalogue ++ Entitlements.catalogue
    ++ Access.catalogue ++ Owners.catalogue ++ Products.catalogue ++ Delivery.catalogue

/-- The operation with a name. -/
def named? (name : String) : Option Operation := all.lookup name

end EntitlementClient.Operation
