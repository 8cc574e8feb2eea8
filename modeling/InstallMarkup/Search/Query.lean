import InstallMarkup.Search.Component
import InstallMarkup.Search.Header
import InstallMarkup.Search.Path
import InstallMarkup.Search.Product
import InstallMarkup.Search.Registry

/-!
# Queries and whole searches

A query is the part of a search that belongs to its kind. With the header it makes a search that can
be written: the identifier is the author's, or is computed from the header and from every column of
the query, so that two searches share it only if they are the same.
-/

namespace InstallMarkup

/-- What a search looks for. -/
inductive SearchQuery where
  | component (query : ComponentQuery)
  | directory (query : PathQuery)
  | file (query : PathQuery)
  | product (query : ProductQuery)
  | registry (query : RegistryQuery)
  deriving DecidableEq, Repr

namespace SearchQuery

def kind : SearchQuery → SearchKind
  | component _ => .component
  | directory _ => .directory
  | file _ => .file
  | product _ => .product
  | registry _ => .registry

/-- A mask as a hashed field: its decimal numeral. -/
def maskField (bits : UInt32) : Option String := some (toString bits.toNat)

/-- The fields that are hashed after those of the header. -/
def hashFields : SearchQuery → List (Option String)
  | component q => [some q.guid, q.productCode, maskField q.flags.bits]
  | directory q => [some q.path, maskField q.flags.bits]
  | file q => [some q.path, maskField q.flags.bits]
  | product q => [some q.code, maskField q.flags.bits]
  | registry q =>
    [some (toString q.root.code.toInt), some q.key, q.value, maskField q.flags.bits]

/-- The row of the kind, under an identifier. -/
def row (id : Identifier) : SearchQuery → Row
  | component q =>
    .componentSearch
      { id, componentGuid := q.guid, productCode := q.productCode, flags := q.flags }
  | directory q => .fileSearch { id, path := q.path, flags := q.flags }
  | file q => .fileSearch { id, path := q.path, flags := q.flags }
  | product q => .productSearch { id, code := q.code, flags := q.flags }
  | registry q =>
    .registrySearch { id, root := q.root, key := q.key, value := q.value, flags := q.flags }

/-- The search with a header and a query, ready to be written. -/
def build (header : SearchHeader) (query : SearchQuery) : Except CompileFault ValidatedSearch :=
  match header.identify (.search query.kind) query.hashFields with
  | .ok id => .ok (header.complete id (query.row id))
  | .error fault => .error fault

end SearchQuery

namespace SearchKind

/-- The attributes that belong to the kind. -/
def rules : SearchKind → List AttributeRule
  | component => ComponentQuery.rules
  | directory => PathQuery.directoryRules
  | file => PathQuery.fileRules
  | product => ProductQuery.rules
  | registry => RegistryQuery.rules

/-- Reads the query of an element: required attributes and combinations, after each attribute has
been checked by its rule. -/
def assessQuery (kind : SearchKind) (e : Element) : Assessment SearchQuery :=
  match kind with
  | component => (ComponentQuery.assess e).map .component
  | directory => (PathQuery.assessDirectory e).map .directory
  | file => (PathQuery.assessFile e).map .file
  | product => (ProductQuery.assess e).map .product
  | registry => (RegistryQuery.assess e).map .registry

/-- What the attributes of a search raise, one by one. -/
def attributeFaults (kind : SearchKind) (config : Config) (e : Element) : List Diagnostic :=
  AttributeRule.checkAll (SearchSettings.rules config kind.elementName ++ kind.rules)
    kind.elementName e.attributes

/-- Everything that a search element raises on its own, and the search itself if nothing that was
raised counts as an error. -/
def assess (kind : SearchKind) (config : Config) (e : Element) (placement : Placement) :
    Except CompileFault (Assessment ValidatedSearch) :=
  let settings := SearchSettings.ofAttributes config kind.elementName e.attributes
  let header := settings.header e placement
  let query := kind.assessQuery e
  let raised := kind.attributeFaults config e ++ header.raised ++ query.raised
  match header.value, query.value with
  | some h, some q =>
    if Assessment.clean config.warningsAsErrors raised then
      match q.build h with
      | .ok search => .ok ⟨raised, some search⟩
      | .error fault => .error fault
    else .ok (.rejected raised)
  | _, _ => .ok (.rejected raised)

end SearchKind

end InstallMarkup
