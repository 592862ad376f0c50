import IngressController.Proofs.Address.Digits
import IngressController.Text.Blank

/-!
# `IngressController.Proofs.Address.RoundTrip`: canonical forms are read back

Whatever an address or a network is printed as denotes it, for every address of either family and
every length. Each reader stops where the printed form ends, so that the same statements serve for
an address by itself and for one with a slash and a length behind it.

The two grammars differ in zeros in front of octets and in a `::` that stands for no group. Neither
occurs in a canonical form: octets are printed without zeros in front, and `::` is printed for two
groups at least. So both grammars read it, and in the same way.

* `joined`: parts with separators, in the form that the readers take apart.
* `readGroups_joined`: groups are read up to the end of the address or up to `::`.
* `isRun_longestZeros`: what is printed as `::` is a run of zero groups.
* `readV4_print` and `readV6_print`: the two families, with anything behind the address that can
  follow one.
* `Ip.parse?_print` and `Network.parse?_print`: the round trips.
-/

set_option autoImplicit false

namespace IngressController.Address

/-! ### Parts with separators -/

/-- Parts with a separator in front of each, or of each but the first. -/
def joined (sep : Char) (first : Bool) : List String → List Char
  | [] => []
  | part :: parts => (if first then [] else [sep]) ++ part.toList ++ joined sep false parts

theorem toList_intercalate_eq_joined (sep : Char) (parts : List String) :
    ((String.singleton sep).intercalate parts).toList = joined sep true parts := by
  have htail : ∀ (part : String) (parts : List String),
      [sep].intercalate ((part :: parts).map String.toList)
        = part.toList ++ joined sep false parts := by
    intro part parts
    induction parts generalizing part with
    | nil => simp [joined]
    | cons next parts ih =>
        rw [List.map_cons, List.map_cons, List.intercalate_cons_cons, ← List.map_cons, ih, joined]
        simp
  rw [String.toList_intercalate, String.toList_singleton]
  cases parts with
  | nil => rfl
  | cons part parts => exact htail part parts

/-! ### Where readers stop -/

/-- What can follow a whole address: nothing, or the slash in front of a length. -/
def AddressEnd (cs : List Char) : Prop :=
  ∀ c ∈ cs.head?, c = '/'

/-- What can follow groups that are read together: the end of the address, or `::`. -/
def GroupsEnd (cs : List Char) : Prop :=
  AddressEnd cs ∨ ∃ rest, cs = ':' :: ':' :: rest

/-- What can follow one group: the end of the address, or a colon. -/
def GroupEnd (cs : List Char) : Prop :=
  ∀ c ∈ cs.head?, c = ':' ∨ c = '/'

section Ends

variable {cs rest : List Char}

theorem addressEnd_nil : AddressEnd [] := by
  intro c hc
  cases hc

theorem addressEnd_slash (rest : List Char) : AddressEnd ('/' :: rest) := by
  intro c hc
  exact (Option.some.inj hc).symm

theorem GroupsEnd.groupEnd (h : GroupsEnd cs) : GroupEnd cs := by
  intro c hc
  rcases h with h | ⟨rest, rfl⟩
  · exact .inr (h c hc)
  · exact .inl (Option.some.inj hc).symm

/-- A group ends where the next one begins. -/
theorem groupEnd_joined (hrest : GroupEnd rest) (parts : List String) :
    GroupEnd (joined ':' false parts ++ rest) := by
  cases parts with
  | nil => exact hrest
  | cons part parts =>
      intro c hc
      exact .inl (Option.some.inj hc).symm

theorem GroupEnd.halts (h : GroupEnd cs) : Halts 16 cs := by
  intro c hc
  rcases h c hc with rfl | rfl <;> rfl

/-- A digit of a base is one of every greater base. -/
theorem Halts.mono {base base' : Nat} (h : Halts base' cs) (hle : base ≤ base') :
    Halts base cs := by
  intro c hc
  have hnone := h c hc
  rw [Text.digitValue?, Option.filter_eq_none_iff] at hnone ⊢
  intro d hd hlt
  exact hnone d hd (decide_eq_true (Nat.lt_of_lt_of_le (of_decide_eq_true hlt) hle))

theorem AddressEnd.halts (h : AddressEnd cs) : Halts 16 cs :=
  GroupEnd.halts fun c hc => .inr (h c hc)

/-- Where no digit stands no number is read. -/
theorem readNumber_of_halts {base : Nat} (h : Halts base cs) (maxDigits limit : Nat)
    (padded : Bool) : readNumber base maxDigits limit padded cs = none := by
  have hnone : takeDigits base cs = ([], cs) := by
    cases cs with
    | nil => rfl
    | cons c cs => rw [takeDigits, h c rfl]
  rw [readNumber, hnone]
  rfl

end Ends

/-! ### IPv4 addresses -/

section V4

variable {cs rest : List Char}

/-- Octets are read as they are printed. -/
theorem readOctets_joined (g : Grammar) {os : List Nat} (hos : ∀ o ∈ os, o < 256)
    (hrest : Halts 10 rest) (first : Bool) :
    readOctets g first os.length (joined '.' first (os.map Text.decimal) ++ rest)
      = some (os, rest) := by
  induction os generalizing first with
  | nil => rfl
  | cons o os ih =>
      obtain ⟨ho, hos⟩ := List.forall_mem_cons.mp hos
      have hnext : Halts 10 (joined '.' false (os.map Text.decimal) ++ rest) := by
        cases os with
        | nil => exact hrest
        | cons o' os =>
            intro c hc
            rw [← Option.some.inj hc]
            rfl
      have hread := readNumber_decimalDigits (show 0 < 3 by omega) (by omega) ho hnext
        g.paddedOctets
      cases first <;>
        simp [readOctets, joined, Text.decimal, hread, ih hos]

/-- An octet is one of several only if a point follows its digits. -/
def Undotted (cs : List Char) : Prop :=
  (takeDigits 10 cs).2.head? ≠ some '.'

/-- Without a point behind its digits a text does not begin with an IPv4 address. -/
theorem readOctets_of_undotted (h : Undotted cs) (g : Grammar) : readOctets g true 4 cs = none := by
  cases hnumber : readNumber 10 3 256 g.paddedOctets cs with
  | none => simp [readOctets, hnumber]
  | some read =>
      obtain ⟨octet, rest⟩ := read
      have hrest : rest = (takeDigits 10 cs).2 := by
        rw [readNumber] at hnumber
        grind
      rw [Undotted, ← hrest] at h
      cases rest with
      | nil => simp [readOctets, hnumber]
      | cons c rest =>
          have hc : c ≠ '.' := by simpa using h
          simp [readOctets, hnumber, hc]

theorem undotted_of_halts (h : Halts 10 cs) (hhead : cs.head? ≠ some '.') : Undotted cs := by
  cases cs with
  | nil => exact hhead
  | cons c cs =>
      rw [Undotted, takeDigits, h c rfl]
      exact hhead

/-- A group is not the first octet of an IPv4 address. -/
theorem undotted_printGroup {group : Nat} (hgroup : group < 65536) (hrest : GroupEnd rest) :
    Undotted ((printGroup group).toList ++ rest) := by
  have hdots : ∀ d < 16, hexDigitChar d ≠ '.' := by decide
  obtain ⟨digits, hspells, hchars, -⟩ := exists_spells_printGroup hgroup
  rw [hchars]
  -- Some of its digits may be decimal, but what follows these is a letter or the end of the group.
  have hlt : ∀ d ∈ digits, d < 16 := hspells.lt
  clear hchars hspells
  induction digits with
  | nil =>
      refine undotted_of_halts (hrest.halts.mono (by omega)) fun hdot => ?_
      rcases hrest '.' hdot with h | h <;> cases h
  | cons d digits ih =>
      obtain ⟨hd, hdigits⟩ := List.forall_mem_cons.mp hlt
      rw [List.map_cons, List.cons_append, Undotted, takeDigits]
      split
      · exact ih hdigits
      · exact fun hdot => hdots d hd (Option.some.inj hdot)

theorem ofDigits_octets (value : Nat) : ofDigits 256 (octets value) = value % 2 ^ 32 :=
  ofDigits_toDigits 256 4 value

theorem toList_printV4 (value : Nat) :
    (printV4 value).toList = joined '.' true ((octets value).map Text.decimal) :=
  toList_intercalate_eq_joined '.' _

/-- The octets of an IPv4 address are read as they are printed. -/
theorem readOctets_printV4 (g : Grammar) (value : Nat) (hrest : AddressEnd rest) :
    readOctets g true 4 ((printV4 value).toList ++ rest) = some (octets value, rest) := by
  rw [toList_printV4, ← length_toDigits 256 4 value]
  exact readOctets_joined g (fun o ho => lt_of_mem_toDigits (by omega) ho)
    (hrest.halts.mono (by omega)) true

/-- An IPv4 address is read as it is printed. -/
theorem readV4_print (g : Grammar) {ip : Ip} (hv4 : ip.family = .v4) (hrest : AddressEnd rest) :
    readV4 g (ip.print.toList ++ rest) = some (ip, rest) := by
  obtain ⟨family, value⟩ := ip
  obtain rfl : family = .v4 := hv4
  show readV4 g ((printV4 value.val).toList ++ rest) = _
  rw [readV4, readOctets_printV4 g value.val hrest]
  have hvalue : Ip.ofOctets (octets value.val) = ⟨.v4, value⟩ := by
    refine congrArg (Ip.mk .v4) (Fin.ext ?_)
    show ofDigits 256 (octets value.val) % 2 ^ 32 = value.val
    rw [ofDigits_octets, Nat.mod_mod]
    exact Nat.mod_eq_of_lt value.isLt
  simp [hvalue]

end V4

/-! ### Groups -/

section Groups

variable {cs rest : List Char}

/-- Behind groups that have come to their end there is none. -/
theorem halts_of_readColon (h : GroupsEnd rest) {first : Bool}
    (hcolon : readColon first rest = some cs) : Halts 16 cs := by
  cases first with
  | true =>
      obtain rfl : rest = cs := Option.some.inj hcolon
      exact h.groupEnd.halts
  | false =>
      rcases h with h | ⟨rest', rfl⟩
      · cases rest with
        | nil => cases hcolon
        | cons c rest =>
            obtain rfl : c = '/' := h c rfl
            cases hcolon
      · obtain rfl : ':' :: rest' = cs := Option.some.inj hcolon
        intro c hc
        rw [← Option.some.inj hc]
        rfl

/-- At the end of its groups an address has no more of them. -/
theorem readGroups_of_groupsEnd (g : Grammar) (h : GroupsEnd rest) (first : Bool) (limit : Nat) :
    readGroups g first limit rest = ([], false, rest) := by
  cases limit with
  | zero => rfl
  | succ limit =>
      rw [readGroups]
      cases hcolon : readColon first rest with
      | none => simp
      | some cs =>
          have hhalts : Halts 16 cs := halts_of_readColon h hcolon
          have hoctets : readOctets g true 4 cs = none := by
            simp [readOctets, readNumber_of_halts (hhalts.mono (by omega : 10 ≤ 16))]
          simp [hoctets, readNumber_of_halts hhalts]

theorem readColon_joined (first : Bool) (part : String) (parts : List String) :
    readColon first (joined ':' first (part :: parts) ++ rest)
      = some (part.toList ++ (joined ':' false parts ++ rest)) := by
  cases first <;> simp [readColon, joined]

/-- Of groups with an end behind them the first one is read, and then the others. -/
theorem readGroups_cons (g : Grammar) {x : Nat} (hx : x < 65536) (gs : List Nat)
    (hrest : GroupEnd rest) (first : Bool) (limit : Nat) :
    readGroups g first (limit + 1) (joined ':' first ((x :: gs).map printGroup) ++ rest)
      = (x :: (readGroups g false limit (joined ':' false (gs.map printGroup) ++ rest)).1,
          (readGroups g false limit (joined ':' false (gs.map printGroup) ++ rest)).2) := by
  have hnext : GroupEnd (joined ':' false (gs.map printGroup) ++ rest) :=
    groupEnd_joined hrest _
  have hoctets := readOctets_of_undotted (undotted_printGroup hx hnext) g
  rw [readGroups, List.map_cons, readColon_joined, Option.bind_some, Option.bind_some, hoctets,
    readNumber_printGroup hx hnext.halts]
  simp

/-- Groups are read as they are printed, if there is room for them and they end there. -/
theorem readGroups_joined (g : Grammar) {gs : List Nat} (hgs : ∀ x ∈ gs, x < 65536)
    (hrest : GroupsEnd rest) (first : Bool) (limit : Nat) (hlimit : gs.length ≤ limit) :
    readGroups g first limit (joined ':' first (gs.map printGroup) ++ rest)
      = (gs, false, rest) := by
  induction gs generalizing first limit with
  | nil => exact readGroups_of_groupsEnd g hrest first limit
  | cons x gs ih =>
      obtain ⟨hx, hgs⟩ := List.forall_mem_cons.mp hgs
      obtain ⟨limit, rfl⟩ : ∃ l, limit = l + 1 := Nat.exists_eq_add_one_of_ne_zero (by
        rintro rfl
        cases hlimit)
      rw [readGroups_cons g hx gs hrest.groupEnd,
        ih hgs false limit (Nat.le_of_succ_le_succ hlimit)]

theorem toList_printGroups (gs : List Nat) :
    (printGroups gs).toList = joined ':' true (gs.map printGroup) :=
  toList_intercalate_eq_joined ':' _

/-! ### Runs of zeros -/

/-- A run of zeros in some groups: `count` of them with `before` in front and `after` behind. -/
structure IsRun (gs : List Nat) (run : Run) : Prop where
  exists_split : ∃ before after, before.length = run.start
    ∧ gs = before ++ List.replicate run.length 0 ++ after

/-- The longest run that is found is one of zeros. The run that reaches up to the position has
everything in front of the position, and begins where it says unless it is empty. -/
theorem isRun_longestZeros_from {gs rest : List Nat} (before : List Nat) {best current : Run}
    {pos : Nat}
    (hbest : IsRun gs best) (hgs : gs = before ++ List.replicate current.length 0 ++ rest)
    (hpos : before.length + current.length = pos)
    (hstart : current.length ≠ 0 → before.length = current.start) :
    IsRun gs (longestZeros best current pos rest) := by
  induction rest generalizing best current pos before with
  | nil => exact hbest
  | cons x rest ih =>
      rw [longestZeros]
      split
      · next hx =>
          subst hx
          have hlonger : gs = before ++ List.replicate (current.length + 1) 0 ++ rest := by
            rw [hgs, List.replicate_succ']
            simp
          have hrun : ∀ run : Run, run.length = current.length + 1 → run.start = before.length →
              IsRun gs run := fun run hlength hstart =>
            ⟨before, rest, hstart.symm, hlength ▸ hlonger⟩
          by_cases hzero : current.length = 0
          · simp only [if_pos hzero]
            have hcurrent : IsRun gs ⟨pos, 1⟩ := hrun _ (by simp [hzero]) (by simp; omega)
            refine ih before ?_ (by simpa [hzero] using hlonger) (by simp; omega)
              (fun _ => by simp; omega)
            split
            · exact hcurrent
            · exact hbest
          · simp only [if_neg hzero]
            have hcurrent : IsRun gs ⟨current.start, current.length + 1⟩ :=
              hrun _ rfl (hstart hzero).symm
            refine ih before ?_ hlonger (by simp; omega) (fun _ => hstart hzero)
            split
            · exact hcurrent
            · exact hbest
      · refine ih (before ++ List.replicate current.length 0 ++ [x]) hbest ?_ ?_ ?_
        · rw [hgs]
          simp
        · simp
          omega
        · exact fun h => absurd rfl h

theorem isRun_longestZeros (gs : List Nat) : IsRun gs (longestZeros ⟨0, 0⟩ ⟨0, 0⟩ 0 gs) :=
  isRun_longestZeros_from [] ⟨[], gs, rfl, rfl⟩ rfl rfl fun h => absurd rfl h

end Groups

/-! ### IPv6 addresses -/

section V6

variable {rest : List Char}

/-- The forms in which an IPv6 address is printed. -/
inductive PrintedV6 (value : Nat) : List Char → Prop
  /-- It stands for an IPv4 address. -/
  | mapped (h : value / 2 ^ 32 = 0xFFFF) :
      PrintedV6 value (':' :: ':' :: joined ':' true [printGroup 0xFFFF, printV4 (value % 2 ^ 32)])
  /-- At least two groups are left out. -/
  | gap {before after : List Nat} {count : Nat} (hcount : 2 ≤ count)
      (hgroups : groups value = before ++ List.replicate count 0 ++ after) :
      PrintedV6 value (joined ':' true (before.map printGroup)
        ++ ':' :: ':' :: joined ':' true (after.map printGroup))
  /-- All groups are printed. -/
  | full : PrintedV6 value (joined ':' true ((groups value).map printGroup))

theorem printedV6_printV6 (value : Nat) : PrintedV6 value (printV6 value).toList := by
  rw [printV6]
  by_cases hmapped : isMapped value = true
  · have hprint : ("::ffff:" ++ printV4 (value % Nat.pow 2 32)).toList
        = ':' :: ':' :: joined ':' true [printGroup 0xFFFF, printV4 (value % 2 ^ 32)] := by
      rw [String.toList_append, joined, joined, joined, List.append_nil]
      rfl
    rw [if_pos hmapped, hprint]
    exact .mapped (beq_iff_eq.mp hmapped)
  · obtain ⟨before, after, hstart, hgroups⟩ := isRun_longestZeros (groups value)
    rw [if_neg hmapped]
    dsimp only
    generalize longestZeros ⟨0, 0⟩ ⟨0, 0⟩ 0 (groups value) = run at hstart hgroups ⊢
    by_cases hrun : run.length > 1
    · have hbefore : (groups value).take run.start = before := by
        rw [hgroups, ← hstart, List.append_assoc, List.take_left]
      have hafter : (groups value).drop (run.start + run.length) = after := by
        rw [hgroups, ← hstart]
        exact List.drop_left' (by simp)
      rw [if_pos hrun, hbefore, hafter, String.toList_append, String.toList_append,
        toList_printGroups, toList_printGroups, List.append_assoc]
      exact .gap hrun hgroups
    · rw [if_neg hrun, toList_printGroups]
      exact .full

theorem length_groups (value : Nat) : (groups value).length = 8 :=
  length_toDigits 65536 8 value

theorem lt_of_mem_groups {value x : Nat} (h : x ∈ groups value) : x < 65536 :=
  lt_of_mem_toDigits (by omega) h

theorem ofDigits_groups (value : Nat) : ofDigits 65536 (groups value) = value % 2 ^ 128 :=
  ofDigits_toDigits 65536 8 value

theorem ofGroups_of_value {value : Fin (Nat.pow 2 (Family.width .v6))} {gs : List Nat}
    (h : ofDigits 65536 gs = value.val) : Ip.ofGroups gs = ⟨.v6, value⟩ := by
  refine congrArg (Ip.mk .v6) (Fin.ext ?_)
  show ofDigits 65536 gs % 2 ^ 128 = value.val
  rw [h]
  exact Nat.mod_eq_of_lt value.isLt

/-- The groups of an address have its value. -/
theorem ofGroups_groups (value : Fin (Nat.pow 2 (Family.width .v6))) :
    Ip.ofGroups (groups value.val) = ⟨.v6, value⟩ :=
  ofGroups_of_value ((ofDigits_groups _).trans (Nat.mod_eq_of_lt value.isLt))

/-- An IPv6 address does not begin like an IPv4 address. -/
theorem PrintedV6.undotted {value : Nat} {cs : List Char} (h : PrintedV6 value cs)
    (hrest : AddressEnd rest) : Undotted (cs ++ rest) := by
  -- It begins with a colon, or with a group and a colon.
  have hcolon : ∀ cs, Undotted (':' :: cs) := fun cs =>
    undotted_of_halts (by intro c hc; rw [← Option.some.inj hc]; rfl) (by simp)
  have hgroup : ∀ gs : List Nat, (∀ x ∈ gs, x < 65536) → ∀ cs, GroupEnd cs →
      gs ≠ [] ∨ (∃ cs', cs = ':' :: cs') →
      Undotted (joined ':' true (gs.map printGroup) ++ cs) := by
    intro gs hgs cs hend hsome
    cases gs with
    | nil =>
        rcases hsome with hne | ⟨cs', rfl⟩
        · exact absurd rfl hne
        · exact hcolon cs'
    | cons x gs =>
        have hx : x < 65536 := hgs x (List.mem_cons_self ..)
        have hprinted := undotted_printGroup hx (groupEnd_joined hend (gs.map printGroup))
        simpa [joined] using hprinted
  cases h with
  | mapped h => exact hcolon _
  | @gap before after count hcount hgroups =>
      have hbefore : ∀ x ∈ before, x < 65536 := fun x hx =>
        lt_of_mem_groups (show x ∈ groups value by rw [hgroups]; simp [hx])
      rw [List.append_assoc]
      exact hgroup before hbefore _ (by intro c hc; exact .inl (Option.some.inj hc).symm)
        (.inr ⟨_, rfl⟩)
  | full =>
      refine hgroup _ (fun x hx => lt_of_mem_groups hx) rest (fun c hc => .inr (hrest c hc))
        (.inl fun hnil => ?_)
      have hlength := length_groups value
      rw [hnil] at hlength
      cases hlength

/-- What is printed in front of `::` is read with what is read behind it, and with zeros for the
groups that are left out. -/
theorem readV6_gap (g : Grammar) {before back : List Nat} {embedded : Bool} {cs : List Char}
    (hbefore : ∀ x ∈ before, x < 65536) (hroom : before.length < 8)
    (hback : ∀ limit, 7 ≤ before.length + limit →
      readGroups g true limit cs = (back, embedded, rest)) :
    readV6 g (joined ':' true (before.map printGroup) ++ ':' :: ':' :: cs)
      = some (Ip.ofGroups (before ++ List.replicate (8 - before.length - back.length) 0 ++ back),
          rest) := by
  have hend : GroupsEnd (':' :: ':' :: cs) := .inr ⟨_, rfl⟩
  have hfront := readGroups_joined g hbefore hend true 8 (by omega)
  rw [readV6, hfront]
  simp only [if_neg (Nat.ne_of_lt hroom), Bool.false_eq_true, if_false]
  rw [hback _ (by split <;> omega)]

/-- The last two groups of an IPv6 address are read where an IPv4 address is printed. -/
theorem readGroups_mapped (g : Grammar) {value : Nat} (hvalue : value < 2 ^ 32)
    (hrest : AddressEnd rest) (limit : Nat) :
    readGroups g true (limit + 3) (joined ':' true [printGroup 0xFFFF, printV4 value] ++ rest)
      = ([0xFFFF, value / 65536, value % 65536], true, rest) := by
  have hpair : ofDigits 256 (octets value) = value :=
    (ofDigits_octets value).trans (Nat.mod_eq_of_lt hvalue)
  have hcolon : GroupEnd (joined ':' false [printV4 value] ++ rest) := by
    intro c hc
    exact .inl (Option.some.inj hc).symm
  have hembedded : readGroups g false (limit + 2) (joined ':' false [printV4 value] ++ rest)
      = ([value / 65536, value % 65536], true, rest) := by
    rw [readGroups, readColon_joined, Option.bind_some, joined, List.nil_append,
      readOctets_printV4 g value hrest, if_neg (Nat.succ_ne_zero limit)]
    simp only [hpair]
  have hgroups := readGroups_cons g (show 0xFFFF < 65536 by omega) [] hcolon true (limit + 2)
  rw [List.map_nil, joined, List.nil_append, hembedded] at hgroups
  rw [← hgroups, List.map_cons, List.map_nil]
  simp [joined]

/-- An IPv6 address that stands for an IPv4 address is read as it is printed. -/
theorem readV6_mapped (g : Grammar) {value : Fin (Nat.pow 2 (Family.width .v6))}
    (h : value.val / 2 ^ 32 = 0xFFFF) (hrest : AddressEnd rest) :
    readV6 g (':' :: ':' :: joined ':' true [printGroup 0xFFFF, printV4 (value.val % 2 ^ 32)]
      ++ rest) = some (⟨.v6, value⟩, rest) := by
  have hlow : value.val % 2 ^ 32 < 2 ^ 32 := Nat.mod_lt _ (by omega)
  have hback : ∀ limit, 7 ≤ ([] : List Nat).length + limit →
      readGroups g true limit
        (joined ':' true [printGroup 0xFFFF, printV4 (value.val % 2 ^ 32)] ++ rest)
        = ([0xFFFF, value.val % 2 ^ 32 / 65536, value.val % 2 ^ 32 % 65536], true, rest) := by
    intro limit hlimit
    obtain ⟨room, rfl⟩ : ∃ room, limit = room + 3 := Nat.exists_eq_add_of_le' (by
      simp only [List.length_nil] at hlimit
      omega)
    exact readGroups_mapped g hlow hrest room
  -- Five groups of zeros are left out in front.
  have hsame : ofDigits 65536 ([] ++ List.replicate 5 0
      ++ [0xFFFF, value.val % 2 ^ 32 / 65536, value.val % 2 ^ 32 % 65536]) = value.val := by
    rw [List.nil_append, ofDigits_replicate_append]
    simp only [ofDigits, List.foldl_cons, List.foldl_nil]
    omega
  have hnone : ∀ x ∈ ([] : List Nat), x < 65536 := fun x hx => absurd hx List.not_mem_nil
  refine (readV6_gap g hnone (by simp) hback).trans ?_
  exact congrArg (fun ip => some (ip, rest)) (ofGroups_of_value hsame)

/-- An IPv6 address is read as it is printed. -/
theorem readV6_print (g : Grammar) {ip : Ip} (hv6 : ip.family = .v6) (hrest : AddressEnd rest) :
    readV6 g (ip.print.toList ++ rest) = some (ip, rest) := by
  obtain ⟨family, value⟩ := ip
  obtain rfl : family = .v6 := hv6
  show readV6 g ((printV6 value.val).toList ++ rest) = _
  have hlength := length_groups value.val
  have hgroups : ∀ x ∈ groups value.val, x < 65536 := fun x hx => lt_of_mem_groups hx
  have hvalue := ofGroups_groups value
  have hprinted := printedV6_printV6 value.val
  generalize (printV6 value.val).toList = cs at hprinted ⊢
  cases hprinted with
  | mapped h => exact readV6_mapped g h hrest
  | @gap before after count hcount hsplit =>
      rw [hsplit] at hlength hgroups hvalue
      simp only [List.length_append, List.length_replicate] at hlength
      have hback := fun limit (hlimit : 7 ≤ before.length + limit) =>
        readGroups_joined g (fun x hx => hgroups x (by simp [hx])) (.inl hrest) true limit
          (show after.length ≤ limit by omega)
      rw [List.append_assoc, List.cons_append, List.cons_append,
        readV6_gap g (fun x hx => hgroups x (by simp [hx])) (by omega) hback,
        show 8 - before.length - after.length = count by omega, hvalue]
  | full =>
      have hall := readGroups_joined g hgroups (.inl hrest) true 8 (by omega)
      rw [readV6, hall]
      simp only [if_pos hlength, hvalue]

/-- Where an IPv6 address is printed no IPv4 address is read. -/
theorem readV4_of_v6 (g : Grammar) {ip : Ip} (hv6 : ip.family = .v6) (hrest : AddressEnd rest) :
    readV4 g (ip.print.toList ++ rest) = none := by
  obtain ⟨family, value⟩ := ip
  obtain rfl : family = .v6 := hv6
  show readV4 g ((printV6 value.val).toList ++ rest) = none
  rw [readV4, readOctets_of_undotted ((printedV6_printV6 value.val).undotted hrest) g]
  rfl

end V6

/-! ### Round trips -/

/-- An address is the one that its canonical form denotes. -/
theorem Ip.parse?_print (ip : Ip) : Ip.parse? ip.print = some ip := by
  have hchars : ip.print.toList = ip.print.toList ++ [] := (List.append_nil _).symm
  rw [Ip.parse?, hchars]
  cases hfamily : ip.family with
  | v4 => rw [readV4_print .address hfamily addressEnd_nil, Option.some_or]
  | v6 =>
      rw [readV4_of_v6 .address hfamily addressEnd_nil,
        readV6_print .address hfamily addressEnd_nil, Option.none_or]

/-- A length is read as it is printed. -/
theorem readLength_print (net : Network) {maxDigits : Nat} (hmax : 0 < maxDigits)
    (hroom : net.base.family.width < 10 ^ maxDigits) :
    readLength net.base maxDigits ('/' :: Text.decimalDigits net.length) = some (net, []) := by
  have hlength : net.length ≤ net.base.family.width := net.length_le
  have hend : Halts 10 [] := fun c hc => by cases hc
  have hread := readNumber_decimalDigits hmax (Nat.lt_of_le_of_lt hlength hroom)
    (Nat.lt_succ_of_le hlength) hend true
  rw [List.append_nil] at hread
  simp only [readLength, hread, dif_pos hlength]

/-- A network is the one that its canonical form denotes. -/
theorem Network.parse?_print (net : Network) : Network.parse? net.print = some net := by
  have hprint : net.print.toList
      = net.base.print.toList ++ '/' :: Text.decimalDigits net.length := by
    simp [Network.print, Text.decimal]
  have hrest := addressEnd_slash (Text.decimalDigits net.length)
  rw [Network.parse?, hprint]
  cases hfamily : net.base.family with
  | v4 =>
      have hread : readNetworkV4 (net.base.print.toList ++ '/' :: Text.decimalDigits net.length)
          = some (net, []) := by
        rw [readNetworkV4, readV4_print .network hfamily hrest]
        exact readLength_print net (by omega) (by rw [hfamily]; decide)
      rw [hread, Option.some_or]
  | v6 =>
      have hnone : readNetworkV4 (net.base.print.toList ++ '/' :: Text.decimalDigits net.length)
          = none := by
        rw [readNetworkV4, readV4_of_v6 .network hfamily hrest, Option.bind_none]
      have hread : readNetworkV6 (net.base.print.toList ++ '/' :: Text.decimalDigits net.length)
          = some (net, []) := by
        rw [readNetworkV6, readV6_print .network hfamily hrest]
        exact readLength_print net (by omega) (by rw [hfamily]; decide)
      rw [hnone, hread, Option.none_or]

/-! ### Characters -/

/-- Characters of which none is blank. -/
def Visible (cs : List Char) : Prop :=
  ∀ c ∈ cs, Text.isBlank c = false

theorem Visible.append {cs cs' : List Char} (h : Visible cs) (h' : Visible cs') :
    Visible (cs ++ cs') :=
  fun c hc => (List.mem_append.mp hc).elim (h c) (h' c)

theorem Visible.cons {c : Char} {cs : List Char} (hc : Text.isBlank c = false) (h : Visible cs) :
    Visible (c :: cs) :=
  List.forall_mem_cons.mpr ⟨hc, h⟩

/-- No digit is blank. -/
theorem visible_of_spells {base n : Nat} {digits : List Nat} (hbase : base ≤ 16)
    (h : Spells base digits n) : Visible (digits.map hexDigitChar) := by
  have hdigit : ∀ d < 16, Text.isBlank (hexDigitChar d) = false := by decide
  intro c hc
  obtain ⟨d, hd, rfl⟩ := List.mem_map.mp hc
  exact hdigit d (Nat.lt_of_lt_of_le (h.lt d hd) hbase)

theorem visible_decimal (n : Nat) : Visible (Text.decimal n).toList := by
  obtain ⟨digits, hspells, hchars, -⟩ := exists_spells_decimalDigits n
  rw [Text.decimal, String.toList_ofList, hchars]
  exact visible_of_spells (by omega) hspells

theorem visible_printGroup {group : Nat} (h : group < 65536) :
    Visible (printGroup group).toList := by
  obtain ⟨digits, hspells, hchars, -⟩ := exists_spells_printGroup h
  rw [hchars]
  exact visible_of_spells (Nat.le_refl 16) hspells

theorem visible_joined {sep : Char} (hsep : Text.isBlank sep = false) (first : Bool)
    {parts : List String} (h : ∀ part ∈ parts, Visible part.toList) :
    Visible (joined sep first parts) := by
  induction parts generalizing first with
  | nil => exact List.forall_mem_nil _
  | cons part parts ih =>
      obtain ⟨hpart, hparts⟩ := List.forall_mem_cons.mp h
      have hfirst : Visible (if first then [] else [sep]) := by
        cases first with
        | true => exact List.forall_mem_nil _
        | false => exact (Visible.cons hsep (List.forall_mem_nil _))
      exact (hfirst.append hpart).append (ih false hparts)

theorem visible_printGroups {gs : List Nat} (h : ∀ x ∈ gs, x < 65536) :
    Visible (joined ':' true (gs.map printGroup)) :=
  visible_joined rfl true (List.forall_mem_map.mpr fun x hx => visible_printGroup (h x hx))

theorem visible_printV4 (value : Nat) : Visible (printV4 value).toList := by
  rw [toList_printV4]
  exact visible_joined rfl true (List.forall_mem_map.mpr fun o _ => visible_decimal o)

theorem PrintedV6.visible {value : Nat} {cs : List Char} (h : PrintedV6 value cs) :
    Visible cs := by
  cases h with
  | mapped h =>
      refine .cons rfl (.cons rfl (visible_joined rfl true ?_))
      intro part hpart
      rcases List.mem_pair.mp hpart with rfl | rfl
      · exact visible_printGroup (by omega)
      · exact visible_printV4 _
  | @gap before after count hcount hgroups =>
      have hlt : ∀ x ∈ before ++ List.replicate count 0 ++ after, x < 65536 := fun x hx =>
        lt_of_mem_groups (show x ∈ groups value from hgroups ▸ hx)
      exact (visible_printGroups fun x hx => hlt x (by simp [hx])).append
        (.cons rfl (.cons rfl (visible_printGroups fun x hx => hlt x (by simp [hx]))))
  | full => exact visible_printGroups fun x hx => lt_of_mem_groups hx

/-- No character of a printed address is blank. -/
theorem Ip.visible_print (ip : Ip) : Visible ip.print.toList := by
  obtain ⟨family, value⟩ := ip
  cases family with
  | v4 => exact visible_printV4 value.val
  | v6 => exact (printedV6_printV6 value.val).visible

/-- No character of a printed network is blank. -/
theorem Network.visible_print (net : Network) : Visible net.print.toList := by
  rw [Network.print, String.toList_append, String.toList_append]
  exact (net.base.visible_print.append (.cons rfl (List.forall_mem_nil _))).append
    (visible_decimal net.length)

end IngressController.Address
