import Mathlib.Data.List.Forall2
import StreamScalar.Function.Contract

/-!
# The checks that functions share

* `checkSignature_eq_ok_iff` : an argument list is accepted with the declared types of its
  arguments, and only if there is one argument for every parameter and each has a type that its
  parameter takes.
* `checkSignature?_eq` : no check looks past the end of the list.
* `judged_checkSignature` : where all parameters take the same types, what an argument list is
  answered with, down to the first type that is not accepted.
* `numericArgument_absent`, `numericArgument_number` : an argument of a numeric type is a double, if
  it is there and a number.
-/

namespace StreamScalar

theorem mapM_eq_ok_iff {ε α β : Type} {f : α → Except ε β} {as : List α} {bs : List β} :
    as.mapM f = .ok bs ↔ as.map f = bs.map .ok := by
  induction as generalizing bs with
  | nil =>
    rw [List.mapM_nil, List.map_nil]
    cases bs with
    | nil => exact ⟨fun _ => rfl, fun _ => rfl⟩
    | cons b bs => exact ⟨fun h => (by cases h), fun h => (by cases h)⟩
  | cons a as ih =>
    rw [List.mapM_cons, List.map_cons]
    constructor
    · intro h
      cases hfirst : f a with
      | error e => rw [hfirst] at h; cases h
      | ok b =>
        cases hrest : as.mapM f with
        | error e => rw [hfirst, hrest] at h; cases h
        | ok rest =>
          rw [hfirst, hrest] at h
          cases h
          rw [ih.mp hrest, List.map_cons]
    · intro h
      cases bs with
      | nil => cases h
      | cons b rest =>
        obtain ⟨hfirst, hrest⟩ := List.cons.inj h
        rw [hfirst, ih.mpr hrest]
        rfl

theorem exists_of_mapM_eq_error {ε α β : Type} {f : α → Except ε β} {as : List α} {e : ε}
    (h : as.mapM f = .error e) :
    ∃ (i : Nat) (hi : i < as.length), f as[i] = .error e ∧
      ∀ j (hj : j < i), ∃ b, f as[j] = .ok b := by
  induction as with
  | nil => cases h
  | cons a as ih =>
    rw [List.mapM_cons] at h
    cases hfirst : f a with
    | error e' =>
      rw [hfirst] at h
      cases h
      exact ⟨0, Nat.succ_pos _, hfirst, fun j hj => absurd hj (Nat.not_lt_zero j)⟩
    | ok b =>
      cases hrest : as.mapM f with
      | ok rest =>
        rw [hfirst, hrest] at h
        cases h
      | error e' =>
        rw [hfirst, hrest] at h
        cases h
        obtain ⟨i, hi, he, hearlier⟩ := ih hrest
        refine ⟨i + 1, Nat.succ_lt_succ hi, he, fun j hj => ?_⟩
        match j with
        | 0 => exact ⟨b, hfirst⟩
        | j + 1 => exact hearlier j (Nat.lt_of_succ_lt_succ hj)

theorem checkArgumentType_eq_ok_iff {function : String} {arguments : List Argument}
    {position : Fin arguments.length} {accepted : List AttributeType} {type : AttributeType} :
    checkArgumentType function arguments position accepted = .ok type ↔
      (arguments.get position).declaredType = type ∧ type ∈ accepted := by
  by_cases h : (arguments.get position).declaredType ∈ accepted
  · have hfound : checkArgumentType function arguments position accepted =
        .ok (arguments.get position).declaredType := if_pos h
    rw [hfound, Except.ok.injEq]
    exact ⟨fun heq => ⟨heq, heq ▸ h⟩, And.left⟩
  · have hrefused : checkArgumentType function arguments position accepted =
        .error (.typeMismatch function position accepted (arguments.get position).declaredType) :=
      if_neg h
    rw [hrefused]
    exact ⟨fun heq => (by cases heq), fun heq => absurd (heq.1 ▸ heq.2) h⟩

theorem checkArgumentType_eq_error_iff {function : String} {arguments : List Argument}
    {position : Fin arguments.length} {accepted : List AttributeType} {e : ValidationError} :
    checkArgumentType function arguments position accepted = .error e ↔
      (arguments.get position).declaredType ∉ accepted ∧
        e = .typeMismatch function position accepted (arguments.get position).declaredType := by
  by_cases h : (arguments.get position).declaredType ∈ accepted
  · have hfound : checkArgumentType function arguments position accepted =
        .ok (arguments.get position).declaredType := if_pos h
    rw [hfound]
    exact ⟨fun heq => (by cases heq), fun heq => absurd h heq.1⟩
  · have hrefused : checkArgumentType function arguments position accepted =
        .error (.typeMismatch function position accepted (arguments.get position).declaredType) :=
      if_neg h
    rw [hrefused, Except.error.injEq]
    exact ⟨fun heq => ⟨h, heq.symm⟩, fun heq => heq.2.symm⟩

theorem checkSignature_eq_ok_iff {function : String} {arguments : List Argument}
    {parameters : List (List AttributeType)} {types : List AttributeType} :
    checkSignature function arguments parameters = .ok types ↔
      types = arguments.map Argument.declaredType ∧
        List.Forall₂ (fun type accepted => type ∈ accepted) types parameters := by
  rw [checkSignature, checkArity, List.forall₂_iff_get]
  by_cases hlength : arguments.length = parameters.length
  · rw [dif_pos hlength]
    simp only [bind, Except.bind]
    rw [mapM_eq_ok_iff]
    constructor
    · intro h
      have htypes : parameters.length = types.length := by simpa using congrArg List.length h
      have hat : ∀ i (hi : i < types.length), arguments[i].declaredType = types[i] ∧
          types[i] ∈ parameters[i] := by
        intro i hi
        have hposition := List.getElem_of_eq h (show i < _ by simpa using htypes ▸ hi)
        rw [List.getElem_map, List.getElem_map, List.getElem_finRange] at hposition
        exact checkArgumentType_eq_ok_iff.mp hposition
      refine ⟨List.ext_getElem (by simp; omega) fun i hi _ => ?_, htypes.symm,
        fun i hi _ => (hat i hi).2⟩
      rw [List.getElem_map]
      exact (hat i hi).1.symm
    · rintro ⟨rfl, _, haccepted⟩
      refine List.ext_getElem (by simpa using hlength.symm) fun i hi hi' => ?_
      rw [List.getElem_map, List.getElem_map, List.getElem_finRange, List.getElem_map]
      have hmem := haccepted i (by simpa using hi') (by simpa using hi)
      simp only [List.get_eq_getElem, List.getElem_map] at hmem
      exact checkArgumentType_eq_ok_iff.mpr ⟨rfl, hmem⟩
  · rw [dif_neg hlength]
    refine ⟨fun h => (by cases h), ?_⟩
    rintro ⟨rfl, htypes, _⟩
    exact absurd (by simpa using htypes) hlength

theorem exists_of_checkSignature_eq_error {function : String} {arguments : List Argument}
    {parameters : List (List AttributeType)} {e : ValidationError}
    (h : checkSignature function arguments parameters = .error e) :
    (arguments.length ≠ parameters.length ∧
      e = .arityMismatch function parameters.length arguments.length) ∨
    (arguments.length = parameters.length ∧
      ∃ (i : Nat) (hi : i < arguments.length) (hi' : i < parameters.length),
        arguments[i].declaredType ∉ parameters[i] ∧
        e = .typeMismatch function i parameters[i] arguments[i].declaredType ∧
        ∀ j (hj : j < i), arguments[j].declaredType ∈ parameters[j]) := by
  rw [checkSignature, checkArity] at h
  by_cases hlength : arguments.length = parameters.length
  · rw [dif_pos hlength] at h
    simp only [bind, Except.bind] at h
    obtain ⟨i, hi, hfault, hearlier⟩ := exists_of_mapM_eq_error h
    have hi' : i < parameters.length := by simpa using hi
    simp only [List.getElem_finRange] at hfault hearlier
    obtain ⟨hnot, rfl⟩ := checkArgumentType_eq_error_iff.mp hfault
    refine Or.inr ⟨hlength, i, by omega, hi', hnot, rfl, fun j hj => ?_⟩
    obtain ⟨type, htype⟩ := hearlier j hj
    obtain ⟨rfl, hmem⟩ := checkArgumentType_eq_ok_iff.mp htype
    exact hmem
  · rw [dif_neg hlength] at h
    cases h
    exact Or.inl ⟨hlength, rfl⟩

/-! ## Every access is in range -/

/-- The check of the argument at a position that nothing keeps inside the list: there is no answer
at all where the position is past the end. -/
def checkArgumentType? (function : String) (arguments : List Argument) (position : Nat)
    (accepted : List AttributeType) : ExceptT ValidationError Option AttributeType :=
  ExceptT.mk (arguments[position]?.map fun argument =>
    if argument.declaredType ∈ accepted then .ok argument.declaredType
    else .error (.typeMismatch function position accepted argument.declaredType))

/-- The checks of an argument list by such positions. -/
def checkSignature? (function : String) (arguments : List Argument)
    (parameters : List (List AttributeType)) :
    ExceptT ValidationError Option (List AttributeType) :=
  if arguments.length = parameters.length then
    (List.finRange parameters.length).mapM fun position : Fin parameters.length =>
      checkArgumentType? function arguments position parameters[position]
  else throw (.arityMismatch function parameters.length arguments.length)

theorem checkArgumentType?_eq {function : String} {arguments : List Argument} {position : Nat}
    (h : position < arguments.length) (accepted : List AttributeType) :
    checkArgumentType? function arguments position accepted =
      ExceptT.mk (some (checkArgumentType function arguments ⟨position, h⟩ accepted)) := by
  unfold checkArgumentType? checkArgumentType
  rw [List.getElem?_eq_getElem h]
  rfl

theorem mapM_exceptT {ε α β : Type} {f : α → Except ε β} (as : List α) :
    as.mapM (fun a => (ExceptT.mk (some (f a)) : ExceptT ε Option β)) =
      ExceptT.mk (some (as.mapM f)) := by
  induction as with
  | nil => rfl
  | cons a as ih =>
    rw [List.mapM_cons, List.mapM_cons, ih]
    cases hfirst : f a with
    | error e => rfl
    | ok b => cases as.mapM f <;> rfl

theorem checkSignature?_eq (function : String) (arguments : List Argument)
    (parameters : List (List AttributeType)) :
    checkSignature? function arguments parameters =
      ExceptT.mk (some (checkSignature function arguments parameters)) := by
  unfold checkSignature? checkSignature checkArity
  by_cases hlength : arguments.length = parameters.length
  · rw [if_pos hlength, dif_pos hlength]
    -- the length has been judged, so every position is inside the list
    have hcheck : (fun position : Fin parameters.length =>
        checkArgumentType? function arguments position parameters[position]) =
        fun position => ExceptT.mk (some (checkArgumentType function arguments
          (position.cast hlength.symm) parameters[position])) := by
      funext position
      exact checkArgumentType?_eq (by omega) _
    rw [hcheck, mapM_exceptT]
    rfl
  · rw [if_neg hlength, dif_neg hlength]
    rfl

/-! ## Parameters that take the same types -/

theorem forall₂_mem_replicate_iff {types accepted : List AttributeType} {n : Nat} :
    List.Forall₂ (fun type accepted => type ∈ accepted) types (List.replicate n accepted) ↔
      types.length = n ∧ ∀ type ∈ types, type ∈ accepted := by
  constructor
  · intro h
    have hlength : types.length = n := by simpa using h.length_eq
    refine ⟨hlength, fun type hmem => ?_⟩
    obtain ⟨i, hi, rfl⟩ := List.getElem_of_mem hmem
    simpa using h.get hi (by rwa [List.length_replicate, ← hlength])
  · rintro ⟨hlength, hmem⟩
    refine List.forall₂_iff_get.mpr ⟨by simpa using hlength, fun i hi _ => ?_⟩
    simpa using hmem _ (List.getElem_mem hi)

/-- The least position whose type is not accepted, and that type. -/
def FirstMismatch (types accepted : List AttributeType) (position : Nat) (found : AttributeType) :
    Prop :=
  types[position]? = some found ∧ found ∉ accepted ∧
    ∀ earlier < position, ∀ type, types[earlier]? = some type → type ∈ accepted

theorem FirstMismatch.unique {types accepted : List AttributeType} {p q : Nat}
    {found other : AttributeType} (hp : FirstMismatch types accepted p found)
    (hq : FirstMismatch types accepted q other) : p = q ∧ found = other := by
  obtain ⟨hfound, hnot, hearlier⟩ := hp
  obtain ⟨hother, hnot', hearlier'⟩ := hq
  rcases Nat.lt_trichotomy p q with hlt | rfl | hgt
  · exact absurd (hearlier' p hlt found hfound) hnot
  · exact ⟨rfl, Option.some.inj (hfound.symm.trans hother)⟩
  · exact absurd (hearlier q hgt other hother) hnot'

/-- What an argument list is answered with where all `n` parameters take the same types. -/
inductive Judged (function : String) (arguments : List Argument) (n : Nat)
    (accepted : List AttributeType) : Except ValidationError (List AttributeType) → Prop
  | arityMismatch (h : arguments.length ≠ n) :
      Judged function arguments n accepted (.error (.arityMismatch function n arguments.length))
  | typeMismatch {position : Nat} {found : AttributeType} (hlength : arguments.length = n)
      (h : FirstMismatch (arguments.map Argument.declaredType) accepted position found) :
      Judged function arguments n accepted (.error (.typeMismatch function position accepted found))
  | ok (hlength : arguments.length = n)
      (h : ∀ type ∈ arguments.map Argument.declaredType, type ∈ accepted) :
      Judged function arguments n accepted (.ok (arguments.map Argument.declaredType))

namespace Judged

variable {function : String} {arguments : List Argument} {n : Nat} {accepted : List AttributeType}
  {answer : Except ValidationError (List AttributeType)}

theorem arityMismatch_iff (h : Judged function arguments n accepted answer) (name : String)
    (expected found : Nat) :
    answer = .error (.arityMismatch name expected found) ↔
      arguments.length ≠ n ∧ name = function ∧ expected = n ∧ found = arguments.length := by
  cases h with
  | arityMismatch hne =>
    simp only [Except.error.injEq, ValidationError.arityMismatch.injEq]
    exact ⟨fun ⟨hname, hn, hlength⟩ => ⟨hne, hname.symm, hn.symm, hlength.symm⟩,
      fun ⟨_, hname, hn, hlength⟩ => ⟨hname.symm, hn.symm, hlength.symm⟩⟩
  | typeMismatch hlength _ => exact ⟨fun heq => (by cases heq), fun heq => absurd hlength heq.1⟩
  | ok hlength _ => exact ⟨fun heq => (by cases heq), fun heq => absurd hlength heq.1⟩

theorem typeMismatch_iff (h : Judged function arguments n accepted answer) (name : String)
    (position : Nat) (expected : List AttributeType) (found : AttributeType) :
    answer = .error (.typeMismatch name position expected found) ↔
      arguments.length = n ∧
        FirstMismatch (arguments.map Argument.declaredType) accepted position found ∧
        name = function ∧ expected = accepted := by
  cases h with
  | arityMismatch hne => exact ⟨fun heq => (by cases heq), fun heq => absurd heq.1 hne⟩
  | typeMismatch hlength hfirst =>
    constructor
    · intro heq
      cases heq
      exact ⟨hlength, hfirst, rfl, rfl⟩
    · rintro ⟨-, hother, rfl, rfl⟩
      obtain ⟨rfl, rfl⟩ := hfirst.unique hother
      rfl
  | ok hlength hall =>
    refine ⟨fun heq => (by cases heq), fun heq => ?_⟩
    obtain ⟨-, ⟨hfound, hnot, -⟩, -⟩ := heq
    exact absurd (hall found (List.mem_of_getElem? hfound)) hnot

theorem ok_iff (h : Judged function arguments n accepted answer) :
    (∃ types, answer = .ok types) ↔
      arguments.length = n ∧ ∀ type ∈ arguments.map Argument.declaredType, type ∈ accepted := by
  cases h with
  | arityMismatch hne => exact ⟨fun ⟨_, heq⟩ => (by cases heq), fun heq => absurd heq.1 hne⟩
  | typeMismatch hlength hfirst =>
    refine ⟨fun ⟨_, heq⟩ => (by cases heq), fun heq => ?_⟩
    obtain ⟨hfound, hnot, -⟩ := hfirst
    exact absurd (heq.2 _ (List.mem_of_getElem? hfound)) hnot
  | ok hlength hall => exact ⟨fun _ => ⟨hlength, hall⟩, fun _ => ⟨_, rfl⟩⟩

end Judged

theorem judged_checkSignature (function : String) (arguments : List Argument) (n : Nat)
    (accepted : List AttributeType) :
    Judged function arguments n accepted
      (checkSignature function arguments (List.replicate n accepted)) := by
  cases h : checkSignature function arguments (List.replicate n accepted) with
  | ok types =>
    obtain ⟨rfl, haccepted⟩ := checkSignature_eq_ok_iff.mp h
    obtain ⟨hlength, hmem⟩ := forall₂_mem_replicate_iff.mp haccepted
    exact .ok (by simpa using hlength) hmem
  | error e =>
    rcases exists_of_checkSignature_eq_error h with
      ⟨hlength, rfl⟩ | ⟨hlength, i, hi, hi', hnot, rfl, hearlier⟩
    · rw [List.length_replicate] at hlength ⊢
      exact .arityMismatch hlength
    · simp only [List.getElem_replicate] at hnot hearlier ⊢
      rw [List.length_replicate] at hlength
      refine .typeMismatch hlength ⟨by simp [hi], hnot, fun earlier hlt type htype => ?_⟩
      have hearlier' : earlier < arguments.length := by omega
      rw [List.getElem?_map, List.getElem?_eq_getElem hearlier', Option.map_some,
        Option.some.injEq] at htype
      exact htype ▸ hearlier earlier hlt

/-! ## The arguments of an event -/

section numericArgument

variable {function : String} {data : Row} {position : Nat} {declared : AttributeType}

theorem numericArgument_absent (hdeclared : declared.isNumeric = true)
    (hdata : (data[position]?).join = none) :
    numericArgument function data position declared = .error (.nullArgument function position) := by
  unfold numericArgument coerceToDouble
  rw [hdata, if_pos hdeclared]

theorem numericArgument_number (hdeclared : declared.isNumeric = true) {v : Value} {n : Number}
    (hdata : (data[position]?).join = some v) (hn : v.asNumber? = some n) :
    numericArgument function data position declared = .ok n.toBinary64 := by
  unfold numericArgument coerceToDouble
  simp only [hdata, if_pos hdeclared, hn]

theorem numericArgument_of_coerceToDouble {x : Binary64}
    (h : coerceToDouble (data[position]?).join declared = .ok x) :
    numericArgument function data position declared = .ok x := by
  unfold numericArgument
  rw [h]

end numericArgument

end StreamScalar
