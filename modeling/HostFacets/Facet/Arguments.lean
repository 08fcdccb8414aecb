import HostFacets.Facet.Listing
import HostFacets.Json.Reader

/-!
The arguments of a listing, read from JSON. All of them may be left out or null.
-/

namespace HostFacets.Facet

open Json Json.Reader

def hostFilter : Reader Filter := fun depth draft => (members depth draft).map Filter.mk

def limitField : RecordField Query :=
  field "limit" .optional (optional int64) fun limit q => { q with limit }

def offsetField : RecordField Query :=
  field "offset" .optional (optional int64) fun offset q => { q with offset }

def orderByField : RecordField Query :=
  field "order_by" .optional (optional text) fun orderBy q => { q with orderBy }

def orderHowField : RecordField Query :=
  field "order_how" .optional (optional text) fun orderHow q => { q with orderHow }

def hostFilterField : RecordField Query :=
  field "hostFilter" .optional (optional hostFilter) fun hostFilter q => { q with hostFilter }

def tagSearch : Reader TagSearch :=
  record [field "eq" .optional (optional text) fun eq s => { s with eq },
    field "regex" .optional (optional text) fun regex s => { s with regex }] ⟨none, none⟩

/-- The filter of a tag listing holds the restriction of the tags. -/
def tagSearchOf : Reader (Option TagSearch) :=
  record [field "search" .optional (optional tagSearch) fun search _ => search] none

structure TagArguments where
  query : Query
  search : Option TagSearch

/-- A field of the query inside the arguments of a tag listing. -/
def onQuery (f : RecordField Query) : RecordField TagArguments :=
  ⟨f.name, f.presence, fun depth draft =>
    (f.read depth draft).map fun set a => { a with query := set a.query }⟩

def tagArguments : Reader TagArguments :=
  record [onQuery limitField, onQuery offsetField, onQuery orderByField, onQuery orderHowField,
    field "filter" .optional (optional tagSearchOf) fun search a =>
      { a with search := search.join },
    onQuery hostFilterField] ⟨{}, none⟩

def osArguments : Reader Query :=
  record [limitField, offsetField, orderByField, orderHowField, hostFilterField] {}

/-! ### Listings -/

open Search (Dialogue)

/-- The tags of the hosts within `scope`. -/
def listTags (catalog : Catalog) (scope : List Constraint) (arguments : TagArguments) :
    Dialogue (Except Error (Page (Counted Tag))) :=
  (tags arguments.search).list catalog { arguments.query with scope }

/-- The operating systems of the hosts within `scope`. -/
def listOperatingSystems (catalog : Catalog) (scope : List Constraint) (query : Query) :
    Dialogue (Except Error (Page (Counted OperatingSystem))) :=
  operatingSystems.list catalog { query with scope }

end HostFacets.Facet
