import IngressController.Object.Decoder
import Mathlib.Data.List.Basic

/-!
# `IngressController.Proofs.Json`: what a merge patch leaves of an object

An object is told by the values of its members, where of two members with one name the later one
counts. A merge patch is told by what it does to each of them: a member that the patch does not name
stays, one that it names as `null` goes, and any other is the old value with the patch for it
applied. What is no object counts as an object without members.

* `lookup_setMember` and `lookup_dropMember`: the other members stay as they are.
* `given?_mergePatch`: the rule of the merge patch, member by member.
* `SetAt` and `setAt_mergePatch`: a patch that is a list inside of objects of one member sets that
  list and leaves everything beside its path alone.
-/

set_option autoImplicit false

namespace IngressController.Json

open Object (given?)

section Members

variable {name other : String} {members : List (String × Json)}

/-- A member in front counts if no later one has its name. -/
theorem lookup_cons (key : String) (value : Json) :
    lookup name ((key, value) :: members)
      = (lookup name members).or (if key = name then some value else none) := by
  rw [lookup]
  cases lookup name members <;> rfl

/-- There is a value for the names of the members and for no others. -/
theorem lookup_eq_none_iff : lookup name members = none ↔ name ∉ members.map (·.1) := by
  induction members with
  | nil => simp [lookup]
  | cons member rest ih =>
      rw [lookup_cons, Option.or_eq_none_iff, ih, List.map_cons, List.mem_cons, not_or, and_comm]
      simp [eq_comm]

theorem dropMember_cons (key : String) (value : Json) :
    dropMember name ((key, value) :: members)
      = if key = name then dropMember name members
        else (key, value) :: dropMember name members := by
  by_cases hkey : key = name <;> simp [dropMember, hkey]

/-- A member that is dropped is the only one that goes. -/
theorem lookup_dropMember :
    lookup other (dropMember name members)
      = if name = other then none else lookup other members := by
  induction members with
  | nil => simp [dropMember, lookup]
  | cons member rest ih =>
      obtain ⟨key, value⟩ := member
      rw [dropMember_cons, lookup_cons]
      by_cases hkey : key = name
      · subst hkey
        rw [if_pos rfl, ih]
        by_cases hother : key = other <;> simp [hother]
      · rw [if_neg hkey, lookup_cons, ih]
        by_cases hname : name = other
        · subst hname
          simp [hkey]
        · simp [hname]

/-- A member that is set is the only one that changes. -/
theorem lookup_setMember (value : Json) :
    lookup other (setMember name value members)
      = if name = other then some value else lookup other members := by
  induction members with
  | nil => simp [setMember, lookup]
  | cons member rest ih =>
      obtain ⟨key, old⟩ := member
      rw [setMember]
      by_cases hkey : key = name
      · subst hkey
        rw [if_pos rfl, lookup_cons, lookup_cons, lookup_dropMember]
        by_cases hother : key = other <;> simp [hother]
      · rw [if_neg hkey, lookup_cons, lookup_cons, ih]
        by_cases hother : name = other <;> simp [hother]

end Members

/-! ### Members of a value -/

theorem given?_obj (members : List (String × Json)) (name : String) :
    given? (obj members) name = lookup name members := rfl

/-- What is no object has no members. -/
theorem given?_eq_lookup (json : Json) (name : String) :
    given? json name = lookup name (json.obj?.getD []) := by
  cases json <;> rfl

/-- The member of a value is one that is there and is not `null`. -/
theorem member?_eq_given? (json : Json) (name : String) :
    json.member? name = match given? json name with
      | some null => none
      | found => found := by
  cases json <;> rfl

/-! ### Merge patches -/

/-- What the patch for a member makes of it: `null` removes it. -/
def mergeMember (old : Option Json) : Json → Option Json
  | null => none
  | patch => some ((old.getD null).mergePatch patch)

theorem mergeMember_of_ne_null (old : Option Json) {patch : Json} (h : patch ≠ null) :
    mergeMember old patch = some ((old.getD null).mergePatch patch) := by
  cases patch with
  | null => exact absurd rfl h
  | _ => rfl

/-- The first member of a patch changes the member of its name and no other. -/
theorem exists_mergeMembers_cons (members : List (String × Json)) (key : String) (value : Json)
    (rest : List (String × Json)) :
    ∃ members', mergeMembers members ((key, value) :: rest) = mergeMembers members' rest ∧
      ∀ name, lookup name members'
        = if key = name then mergeMember (lookup name members) value else lookup name members := by
  by_cases hvalue : value = null
  · subst hvalue
    refine ⟨dropMember key members, by rw [mergeMembers], fun name => ?_⟩
    rw [lookup_dropMember]
    rfl
  · refine ⟨setMember key (((lookup key members).getD null).mergePatch value) members, ?_, ?_⟩
    · rw [mergeMembers]
      exact hvalue
    · intro name
      rw [lookup_setMember, mergeMember_of_ne_null _ hvalue]
      by_cases hkey : key = name
      · rw [hkey]
      · rw [if_neg hkey, if_neg hkey]

theorem lookup_mergeMembers {patch : List (String × Json)} (hnames : (patch.map (·.1)).Nodup)
    (members : List (String × Json)) (name : String) :
    lookup name (mergeMembers members patch) = match lookup name patch with
      | none => lookup name members
      | some value => mergeMember (lookup name members) value := by
  induction patch generalizing members with
  | nil => rw [mergeMembers]; rfl
  | cons entry rest ih =>
      obtain ⟨key, value⟩ := entry
      obtain ⟨hkey, hnames⟩ := List.nodup_cons.mp hnames
      obtain ⟨members', hmerge, hmembers'⟩ := exists_mergeMembers_cons members key value rest
      rw [hmerge, ih hnames, lookup_cons, hmembers']
      by_cases hname : key = name
      · -- No later member of the patch has the name.
        subst hname
        rw [lookup_eq_none_iff.mpr hkey]
        simp
      · simp [hname]

/-- A merge patch is applied member by member. -/
theorem given?_mergePatch {patch : List (String × Json)} (hnames : (patch.map (·.1)).Nodup)
    (target : Json) (name : String) :
    given? (target.mergePatch (obj patch)) name = match lookup name patch with
      | none => given? target name
      | some value => mergeMember (given? target name) value := by
  have hmerged : target.mergePatch (obj patch)
      = obj (mergeMembers (target.obj?.getD []) patch) := by
    cases target <;> simp [mergePatch, obj?]
  rw [hmerged, given?_obj, lookup_mergeMembers hnames, given?_eq_lookup]

/-- A patch of one member changes no other one. -/
theorem given?_mergePatch_single {patch : Json} (hpatch : patch ≠ null) (target : Json)
    (name other : String) :
    given? (target.mergePatch (obj [(name, patch)])) other
      = if name = other then some (((given? target name).getD null).mergePatch patch)
        else given? target other := by
  rw [given?_mergePatch (by simp), lookup_cons]
  by_cases hname : name = other
  · subst hname
    simp [lookup, mergeMember_of_ne_null _ hpatch]
  · simp [lookup, hname]

/-- A list in a patch replaces whatever is there. -/
theorem mergePatch_arr (target : Json) (items : List Json) :
    target.mergePatch (arr items) = arr items := by
  rw [mergePatch]

/-! ### Members of members -/

/-- The value at the end of a path of names. -/
def at? (json : Json) : List String → Option Json
  | [] => some json
  | name :: path => (given? json name).bind (·.at? path)

theorem at?_singleton (json : Json) (name : String) : json.at? [name] = given? json name := by
  rw [at?]
  cases given? json name <;> rfl

/-- Neither of two paths leads through the end of the other. -/
def Apart (path other : List String) : Prop :=
  ¬ path <+: other ∧ ¬ other <+: path

/-- Two values differ at most at the end of a path, where the second one has a given value. -/
structure SetAt (path : List String) (value : Json) (before after : Json) : Prop where
  there : after.at? path = some value
  elsewhere : ∀ other, Apart path other → after.at? other = before.at? other

instance (path other : List String) : Decidable (Apart path other) :=
  inferInstanceAs (Decidable (_ ∧ _))

/-- Different members are apart from each other. -/
theorem apart_of_ne {name key : String} (h : name ≠ key) (path rest : List String) :
    Apart (name :: path) (key :: rest) :=
  ⟨fun hprefix => h (List.cons_prefix_cons.mp hprefix).1,
    fun hprefix => h (List.cons_prefix_cons.mp hprefix).1.symm⟩

theorem apart_cons_iff {name : String} {path rest : List String} :
    Apart (name :: path) (name :: rest) ↔ Apart path rest := by
  simp [Apart, List.cons_prefix_cons]

/-- Nothing is behind a member that is not there. -/
theorem at?_getD_null {path other : List String} (h : Apart path other) (member : Option Json) :
    (member.getD null).at? other = member.bind (·.at? other) := by
  cases member with
  | some value => rfl
  | none =>
      cases other with
      | nil => exact absurd List.nil_prefix h.2
      | cons => rfl

/-- An object of one member, which is an object of one member, and so on along a path. -/
def nest (value : Json) : List String → Json
  | [] => value
  | name :: path => obj [(name, nest value path)]

/-- To change a value as a whole is to put another one in its place. -/
theorem SetAt.nil (before value : Json) : SetAt [] value before value :=
  ⟨rfl, fun _ hapart => absurd List.nil_prefix hapart.1⟩

/-- A change of one member to a value is a change at the end of a path if the values of the member
differ at most there. -/
theorem SetAt.cons {name : String} {path : List String} {value before after inner : Json}
    (hname : given? after name = some inner)
    (hinner : SetAt path value ((given? before name).getD null) inner)
    (hothers : ∀ other, name ≠ other → given? after other = given? before other) :
    SetAt (name :: path) value before after where
  there := by
    rw [at?, hname]
    exact hinner.there
  elsewhere := by
    intro other hapart
    cases other with
    | nil => exact absurd List.nil_prefix hapart.2
    | cons key rest =>
        by_cases hkey : name = key
        · subst hkey
          have hrest : Apart path rest := apart_cons_iff.mp hapart
          rw [at?, at?, hname, Option.bind_some, hinner.elsewhere rest hrest, at?_getD_null hrest]
        · rw [at?, at?, hothers key hkey]

/-- A change at the end of a path is a change of its first member, and of no other one. -/
theorem SetAt.exists_member {name : String} {path : List String} {value before after : Json}
    (h : SetAt (name :: path) value before after) :
    ∃ inner, given? after name = some inner ∧
      SetAt path value ((given? before name).getD null) inner := by
  obtain ⟨inner, hinner, hthere⟩ := Option.bind_eq_some_iff.mp h.there
  refine ⟨inner, hinner, hthere, fun other hapart => ?_⟩
  have helsewhere := h.elsewhere (name :: other) (apart_cons_iff.mpr hapart)
  rw [at?, at?, hinner, Option.bind_some] at helsewhere
  rw [helsewhere, at?_getD_null hapart]

theorem SetAt.given?_of_ne {name other : String} {path : List String} {value before after : Json}
    (h : SetAt (name :: path) value before after) (hne : name ≠ other) :
    given? after other = given? before other := by
  rw [← at?_singleton, ← at?_singleton]
  exact h.elsewhere [other] (apart_of_ne hne path [])

/-- To set a member of an object is to change the value behind its name. -/
theorem setAt_setMember (name : String) (value : Json) (members : List (String × Json)) :
    SetAt [name] value (obj members) (obj (setMember name value members)) := by
  have hname : given? (obj (setMember name value members)) name = some value := by
    rw [given?_obj, lookup_setMember, if_pos rfl]
  refine SetAt.cons hname (SetAt.nil _ value) fun other hne => ?_
  rw [given?_obj, lookup_setMember, if_neg hne, given?_obj]

/-- Only the members of what was there before count. -/
theorem SetAt.congr {path : List String} {value before before' after : Json}
    (h : SetAt path value before after)
    (hmembers : ∀ name, given? before' name = given? before name) :
    SetAt path value before' after where
  there := h.there
  elsewhere := by
    intro other hapart
    cases other with
    | nil => exact absurd List.nil_prefix hapart.2
    | cons name rest => rw [h.elsewhere _ hapart, at?, at?, hmembers]

/-- A list at the end of a patch of single members is what the patch sets. -/
theorem setAt_mergePatch (path : List String) (items : List Json) (target : Json) :
    SetAt path (arr items) target (target.mergePatch (nest (arr items) path)) := by
  induction path generalizing target with
  | nil =>
      rw [nest, mergePatch_arr]
      exact SetAt.nil target (arr items)
  | cons name path ih =>
      have hpatch : nest (arr items) path ≠ null := by cases path <;> exact Json.noConfusion
      refine SetAt.cons ?_ (ih ((given? target name).getD null)) fun other hne => ?_
      · rw [nest, given?_mergePatch_single hpatch, if_pos rfl]
      · rw [nest, given?_mergePatch_single hpatch, if_neg hne]

end IngressController.Json
