import EntitlementClient.Catalogue.Entitlements

/-!
# `EntitlementClient.Catalogue.Products`: products and content

Products and content belong to an owner. They are created, changed and deleted below their
owner, and can be read without naming it.
-/

set_option autoImplicit false

namespace EntitlementClient.Products

open Operation

/-- The path of the products of an owner. -/
def productsPath : List PathPart := [.text "/owners/", .option "key", .text "/products"]

/-- The path of a product of an owner. -/
def ownerProductPath (suffix : String) : List PathPart :=
  productsPath ++ [.text "/", .option "product_id", .text suffix]

/-- A request on a product of an owner. -/
def onOwnerProduct (method : Method) (suffix : String) : Operation :=
  { method := method
    parameters := optional ["key", "product_id"]
    requirements := [.allPresent]
    path := ownerProductPath suffix }

/-! ### Products of an owner -/

/-- Gets a product of an owner. -/
def getOwnerProduct : Operation := onOwnerProduct .get ""

/-- Gets the products of an owner. -/
def getAllOwnerProducts : Operation :=
  { method := .get
    parameters := optional ["key"]
    requirements := [.allPresent]
    path := productsPath }

/-- Creates a product. Its type is sent as the attribute `type`. -/
def createProduct : Operation :=
  { method := .post
    parameters :=
      [("product_id", .absent), ("type", .text "SVC"), ("name", .absent), ("multiplier", .one),
        ("attributes", .emptyObject), ("dependent_product_ids", .emptyList),
        ("product_content", .emptyList), ("relies_on", .emptyList), ("key", .absent)]
    requirements := [.present ["key"], .anObject "attributes"]
    path := productsPath
    body := some (.compacted
      [.fields ["name", "multiplier", "dependent_product_ids", "relies_on", "product_content"],
        .member "id" "product_id" .same, .typedAttributes "attributes" "attributes" "type"]) }

/-- Updates a product. -/
def updateProduct : Operation :=
  { method := .put
    parameters :=
      [("product_id", .absent), ("name", .absent), ("multiplier", .absent),
        ("attributes", .emptyList), ("dependent_product_ids", .emptyList),
        ("relies_on", .emptyList), ("key", .absent)]
    requirements := [.present ["key"]]
    path := ownerProductPath ""
    body := some (.compacted
      [.fields ["name", "multiplier", "dependent_product_ids", "relies_on"],
        .member "id" "product_id" .same, .member "attributes" "attributes" .attributes]) }

/-- Deletes a product. -/
def deleteProduct : Operation := onOwnerProduct .delete ""

/-- Gets the certificate of a product of an owner. -/
def getProductCert : Operation := onOwnerProduct .get "/certificate"

/-- Attaches content to a product. -/
def updateProductContent : Operation :=
  { method := .post
    parameters :=
      [("product_id", .absent), ("content_id", .absent), ("enabled", .flag true),
        ("key", .absent)]
    requirements := [.allPresent]
    path := ownerProductPath "/content/" ++ [.option "content_id"]
    query := [.options ["enabled"]] }

/-- Detaches content from a product. -/
def deleteProductContent : Operation :=
  { method := .delete
    parameters := optional ["product_id", "content_id", "key"]
    requirements := [.allPresent]
    path := ownerProductPath "/content/" ++ [.option "content_id"] }

/-! ### Products of all owners -/

/-- Gets a product. -/
def getProduct : Operation := getById "/products" "product_id"

/-- Gets the owners that hold any of the products. -/
def getOwnersWithProduct : Operation :=
  { method := .get
    parameters := [("product_ids", .emptyList)]
    requirements := [.nonEmptyList "product_ids"]
    path := [.text "/products/owners"]
    query := [.renamed "product" "product_ids"] }

/-- Gets the certificate of a product. -/
def getProductCertificate : Operation := below .get "/products" "product_id" "/certificate"

/-- Gets the statistics of a product. -/
def getPerProductStatistics : Operation :=
  { method := .get
    parameters := optional ["product_id", "val_type"]
    path := Entitlements.statisticsPath [.text "/products/", .option "product_id"] }

/-! ### Content -/

/-- Creates content. -/
def createContent : Operation :=
  { method := .post
    parameters :=
      [("content_id", .absent), ("name", .absent), ("label", .absent), ("type", .text "yum"),
        ("vendor", .text "Red Hat"), ("content_url", .text ""), ("gpg_url", .text ""),
        ("modified_product_ids", .emptyList), ("arches", .absent), ("required_tags", .absent),
        ("metadata_expire", .absent), ("key", .absent)]
    requirements := [.present ["key"]]
    path := [.text "/owners/", .option "key", .text "/content"]
    body := some (.compacted
      [.fields ["name", "label", "type", "vendor", "content_url", "gpg_url",
          "modified_product_ids", "arches", "required_tags", "metadata_expire"],
        .member "id" "content_id" .same]) }

/-- Deletes content. -/
def deleteContent : Operation :=
  { method := .delete
    parameters := optional ["content_id", "key"]
    requirements := [.allPresent]
    path := [.text "/owners/", .option "key", .text "/content/", .option "content_id"] }

/-- Gets all content. -/
def getAllContent : Operation := fixed .get "/content"

/-- Gets content. -/
def getContent : Operation := getById "/content" "content_id"

/-- The operations with their names. -/
def catalogue : List (String × Operation) :=
  [("get_owner_product", getOwnerProduct), ("get_all_owner_products", getAllOwnerProducts),
    ("create_product", createProduct), ("update_product", updateProduct),
    ("delete_product", deleteProduct), ("get_product_cert", getProductCert),
    ("update_product_content", updateProductContent),
    ("delete_product_content", deleteProductContent), ("get_product", getProduct),
    ("get_owners_with_product", getOwnersWithProduct),
    ("get_product_certificate", getProductCertificate),
    ("get_per_product_statistics", getPerProductStatistics), ("create_content", createContent),
    ("delete_content", deleteContent), ("get_all_content", getAllContent),
    ("get_content", getContent)]

end EntitlementClient.Products
