import CSource.CType.Spelling

/-!
# Parts of types

The parts of a type are the type itself, the types it is built from and the types of its
parameters. Members of a struct are no parts: a struct is spelled whole.
-/

namespace CSource.CType

/-- What holds of a type when it holds of the types it is built from, its parameters among them,
holds of every type. -/
@[elab_as_elim]
theorem parts_induction {motive : CType → Prop}
    (named : ∀ name, motive (.named name))
    (pointer : ∀ target, motive target → motive (.pointer target))
    (array : ∀ element size, motive element → motive (.array element size))
    (leading : ∀ word inner, motive inner → motive (.leading word inner))
    (trailing : ∀ inner word, motive inner → motive (.trailing inner word))
    (external : ∀ linkage inner, motive inner → motive (.external linkage inner))
    (functionPointer : ∀ result parameters, motive result →
      (∀ parameter ∈ parameters, motive parameter) →
      motive (.functionPointer result parameters))
    (struct : ∀ body, motive (.struct body)) : ∀ type : CType, motive type
  | .named name => named name
  | .pointer target => pointer target (parts_induction named pointer array leading trailing
      external functionPointer struct target)
  | .array element size => array element size (parts_induction named pointer array leading
      trailing external functionPointer struct element)
  | .leading word inner => leading word inner (parts_induction named pointer array leading
      trailing external functionPointer struct inner)
  | .trailing inner word => trailing inner word (parts_induction named pointer array leading
      trailing external functionPointer struct inner)
  | .external linkage inner => external linkage inner (parts_induction named pointer array
      leading trailing external functionPointer struct inner)
  | .functionPointer result parameters => functionPointer result parameters
      (parts_induction named pointer array leading trailing external functionPointer struct result)
      fun parameter _ => parts_induction named pointer array leading trailing external
        functionPointer struct parameter
  | .struct body => struct body

mutual

/-- Whether a property holds of every part of a type. -/
def Every (property : CType → Prop) : CType → Prop
  | .named name => property (.named name)
  | .pointer target => property (.pointer target) ∧ target.Every property
  | .array element size => property (.array element size) ∧ element.Every property
  | .leading word inner => property (.leading word inner) ∧ inner.Every property
  | .trailing inner word => property (.trailing inner word) ∧ inner.Every property
  | .external linkage inner => property (.external linkage inner) ∧ inner.Every property
  | .functionPointer result parameters => property (.functionPointer result parameters) ∧
      result.Every property ∧ EveryIn property parameters
  | .struct body => property (.struct body)

/-- Whether a property holds of every part of the types in a list. -/
def EveryIn (property : CType → Prop) : List CType → Prop
  | [] => True
  | type :: types => type.Every property ∧ EveryIn property types

end

mutual

/-- A property that can be decided for one part can be decided for all parts. -/
def decideEvery (property : CType → Prop) [DecidablePred property] :
    (type : CType) → Decidable (type.Every property)
  | .named name => inferInstanceAs (Decidable (property (.named name)))
  | .pointer target =>
    have := decideEvery property target
    inferInstanceAs (Decidable (property (.pointer target) ∧ target.Every property))
  | .array element size =>
    have := decideEvery property element
    inferInstanceAs (Decidable (property (.array element size) ∧ element.Every property))
  | .leading word inner =>
    have := decideEvery property inner
    inferInstanceAs (Decidable (property (.leading word inner) ∧ inner.Every property))
  | .trailing inner word =>
    have := decideEvery property inner
    inferInstanceAs (Decidable (property (.trailing inner word) ∧ inner.Every property))
  | .external linkage inner =>
    have := decideEvery property inner
    inferInstanceAs (Decidable (property (.external linkage inner) ∧ inner.Every property))
  | .functionPointer result parameters =>
    have := decideEvery property result
    have := decideEveryIn property parameters
    inferInstanceAs (Decidable (property (.functionPointer result parameters) ∧
      result.Every property ∧ EveryIn property parameters))
  | .struct body => inferInstanceAs (Decidable (property (.struct body)))

/-- A property that can be decided for one part can be decided for all parts of listed types. -/
def decideEveryIn (property : CType → Prop) [DecidablePred property] :
    (types : List CType) → Decidable (EveryIn property types)
  | [] => .isTrue trivial
  | type :: types =>
    have := decideEvery property type
    have := decideEveryIn property types
    inferInstanceAs (Decidable (type.Every property ∧ EveryIn property types))

end

instance (property : CType → Prop) [DecidablePred property] : DecidablePred (Every property) :=
  decideEvery property

/-- The types in a list are taken one by one. -/
theorem everyIn_iff {property : CType → Prop} {types : List CType} :
    EveryIn property types ↔ ∀ type ∈ types, type.Every property := by
  induction types with
  | nil => simp [EveryIn]
  | cons type types ih => simp [EveryIn, ih]

/-- What follows from a property of each part holds of every part. -/
theorem Every.imp {property other : CType → Prop} (implies : ∀ type, property type → other type)
    {type : CType} (every : type.Every property) : type.Every other := by
  induction type using parts_induction with
  | named | struct => exact implies _ every
  | pointer _ ih | array _ _ ih | leading _ _ ih | trailing _ _ ih | external _ _ ih =>
    exact ⟨implies _ every.1, ih every.2⟩
  | functionPointer result parameters ih ihs =>
    refine ⟨implies _ every.1, ih every.2.1, everyIn_iff.2 fun parameter mem => ?_⟩
    exact ihs parameter mem (everyIn_iff.1 every.2.2 parameter mem)

end CSource.CType
