/-!
# Kinds of features

Every entity can be served by up to six endpoints. A kind fixes the verb of its requests and what its
route adds to the route of the entity.
-/

namespace EndpointScaffold

/-- what an endpoint does with an entity -/
inductive FeatureKind where
  | create
  | update
  | delete
  | getAll
  | getById
  | getPaged
  deriving DecidableEq, Repr

namespace FeatureKind

def name : FeatureKind → String
  | .create => "Create"
  | .update => "Update"
  | .delete => "Delete"
  | .getAll => "GetAll"
  | .getById => "GetById"
  | .getPaged => "GetPaged"

/-- every kind, in the usual order -/
def all : List FeatureKind := [.create, .update, .delete, .getAll, .getById, .getPaged]

def verb : FeatureKind → String
  | .create => "post"
  | .update => "put"
  | .delete => "delete"
  | .getAll => "get"
  | .getById => "get"
  | .getPaged => "get"

/-- what follows the plural in the route -/
def routeEnd : FeatureKind → String
  | .create => ""
  | .update => ""
  | .delete => "/\x7bid\x7d"
  | .getAll => ""
  | .getById => "/\x7bid\x7d"
  | .getPaged => "/paged"

end FeatureKind

end EndpointScaffold
