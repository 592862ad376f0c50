import IngressController.Proofs.TcpService.Verdict

/-!
# `IngressController.Proofs.TcpService.Unsynced`: passes before the stores have been filled

Before the stores have been filled, no look-up is answered, whatever they already hold. An entry
either asks for a Service, and then the pass fails, or it is skipped before anything is looked up:
its key is not the number of a port, or its directive gives no name for the Service, or one that
cannot name any. So a pass has a result only if all entries are of the second kind, and then it is
made of skips alone. No backend comes from stores that are only filled in part, and nothing is
reported missing from a Service or from the secrets.

* `Asks`: an entry gets as far as the look-up of its Service.
* `SkippedUnasked`: an entry is skipped before that, and `asks_or_exists_skipped`: each entry does
  one or the other.
* `FailsClosed`: a pass fails if an entry asks, and has nothing but these skips if none does, and
  `failsClosed_of_unsynced`: every pass does before the stores have been filled.
-/

set_option autoImplicit false

namespace IngressController.TcpService

/-! ### Entries that ask, and others -/

/-- An entry asks for a Service: its key is the number of a port, and a slash in the first field of
its directive makes it one that can name a Service. -/
structure Asks (entry : String × String) : Prop where
  key : ∃ publicPort, Text.readUnsigned? 16 entry.1 = some publicPort
  slash : '/' ∈ (Directive.field entry.2 0).toList

/-- The skip of an entry that does not ask for a Service. -/
inductive SkippedUnasked : String × String → Skip → Prop
  /-- Its key is not the number of a port. -/
  | invalidPort {key directive : String} (hkey : Text.readUnsigned? 16 key = none) :
      SkippedUnasked (key, directive) (.invalidPort key)
  /-- It gives no name for the Service. -/
  | emptyServiceName {key directive : String} {publicPort : Nat}
      (hkey : Text.readUnsigned? 16 key = some publicPort)
      (hname : Directive.field directive 0 = "") :
      SkippedUnasked (key, directive) (.emptyServiceName publicPort)
  /-- The name cannot be one of a Service. -/
  | serviceNotFound {key directive : String} {publicPort : Nat}
      (hread : Readable key directive publicPort)
      (hslash : '/' ∉ (Directive.field directive 0).toList) :
      SkippedUnasked (key, directive)
        (.serviceNotFound publicPort (Directive.field directive 0))

/-- The error of a look-up of a Service before the stores have been filled. -/
def unfilled : CacheError where
  kind := "service"
  reason := CacheError.notSynced

/-- A pass fails closed: it fails if an entry asks for a Service, and has nothing but skips if none
does. -/
structure FailsClosed (s : Stores) (table : TextMap String) : Prop where
  /-- It fails exactly if some entry asks, and then with the error of looking up a Service. -/
  error : ∀ e, (sync (Lookups.ofStores s) table).value = .error e
    ↔ e = unfilled ∧ ∃ entry ∈ table.entries, Asks entry
  /-- It has a result exactly if none does: no backend, and a skip for each entry. -/
  ok : ∀ outcome, (sync (Lookups.ofStores s) table).value = .ok outcome
    ↔ (∀ entry ∈ table.entries, ¬ Asks entry) ∧ outcome.backends = []
      ∧ List.Forall₂ SkippedUnasked table.entries outcome.skipped

section Entries

variable {s : Stores} {entry : String × String} {skip : Skip}

/-- Every entry asks for a Service or is skipped before that. -/
theorem asks_or_exists_skipped (entry : String × String) :
    Asks entry ∨ ∃ skip, SkippedUnasked entry skip := by
  obtain ⟨key, directive⟩ := entry
  cases hkey : Text.readUnsigned? 16 key with
  | none => exact .inr ⟨_, .invalidPort hkey⟩
  | some publicPort =>
      by_cases hname : Directive.field directive 0 = ""
      · exact .inr ⟨_, .emptyServiceName hkey hname⟩
      · by_cases hslash : '/' ∈ (Directive.field directive 0).toList
        · exact .inl ⟨⟨publicPort, hkey⟩, hslash⟩
        · exact .inr ⟨_, .serviceNotFound ⟨hkey, hname⟩ hslash⟩

/-- What is looked up before the stores have been filled is not answered. -/
theorem whenSynced_eq_error {α : Type} (hunsynced : s.synced = false) (kind : String)
    (answer : α) : s.whenSynced kind answer = .error ⟨kind, CacheError.notSynced⟩ := by
  rw [Stores.whenSynced, hunsynced]
  rfl

/-- An entry that asks for a Service is not answered. -/
theorem convert_of_asks (hunsynced : s.synced = false) (h : Asks entry) :
    (Lookups.ofStores s).convert entry.1 entry.2 = .error unfilled := by
  obtain ⟨⟨publicPort, hkey⟩, hslash⟩ := h
  have hname : Directive.field entry.2 0 ≠ "" := fun hempty => by
    rw [hempty] at hslash
    exact absurd hslash (by decide)
  obtain ⟨r, hr⟩ := Option.ne_none_iff_exists'.mp
    (mt NameReference.cut?_eq_none_iff.mp (not_not.mpr hslash))
  have hservice : (Lookups.ofStores s).referredService (Directive.field entry.2 0)
      = .error unfilled :=
    referredService_eq_error_iff.mpr ⟨r, hr, whenSynced_eq_error hunsynced _ _⟩
  rw [convert_of_parse (parse_eq_asked ⟨hkey, hname⟩), resolve_eq, asked, hservice]
  rfl

/-- An entry that does not is skipped, whatever the stores hold. -/
theorem convert_of_skippedUnasked (s : Stores) (h : SkippedUnasked entry skip) :
    (Lookups.ofStores s).convert entry.1 entry.2 = .ok (.error skip) := by
  cases h with
  | invalidPort hkey => simp only [Lookups.convert, Directive.parse, hkey]
  | emptyServiceName hkey hname =>
      simp only [Lookups.convert, Directive.parse, hkey, hname, if_true]
  | @serviceNotFound _ directive _ hread hslash =>
      have hservice : (Lookups.ofStores s).referredService (Directive.field directive 0)
          = .ok none := by
        rw [Lookups.referredService, NameReference.cut?_eq_none_iff.mpr hslash]
      rw [convert_of_parse (parse_eq_asked hread), resolve_eq, asked, hservice]
      rfl

end Entries

/-! ### Passes -/

section Pass

variable {s : Stores} {table : TextMap String} {entries : List (String × String)}
  {skips : List Skip}

/-- If no entry asks for a Service, each has its skip. -/
theorem exists_skips (h : ∀ entry ∈ entries, ¬ Asks entry) :
    ∃ skips, List.Forall₂ SkippedUnasked entries skips := by
  induction entries with
  | nil => exact ⟨[], .nil⟩
  | cons entry entries ih =>
      obtain ⟨hentry, hentries⟩ := List.forall_mem_cons.mp h
      obtain ⟨skips, hskips⟩ := ih hentries
      obtain ⟨skip, hskip⟩ := (asks_or_exists_skipped entry).resolve_left hentry
      exact ⟨skip :: skips, .cons hskip hskips⟩

/-- Skips are verdicts. -/
theorem judges_of_skips (s : Stores) (h : List.Forall₂ SkippedUnasked entries skips) :
    (Lookups.ofStores s).Judges entries (skips.map .error) := by
  rw [Lookups.Judges]
  induction h with
  | nil => rfl
  | cons hskip _ ih =>
      rw [List.map_cons, List.map_cons, List.map_cons, convert_of_skippedUnasked s hskip, ih]

/-- A pass over entries of which each has its skip has these skips for its result. -/
theorem value_sync_of_skips (s : Stores)
    (h : List.Forall₂ SkippedUnasked table.entries skips) :
    (sync (Lookups.ofStores s) table).value = .ok { backends := [], skipped := skips } := by
  have hbackends : (skips.map Except.error).filterMap Verdict.backend? = [] := by
    rw [List.filterMap_map, List.filterMap_eq_nil_iff]
    exact fun _ _ => rfl
  have hskips : (skips.map Except.error).filterMap Verdict.skip? = skips := by
    rw [List.filterMap_map]
    exact List.filterMap_some
  rw [value_sync_of_judges (judges_of_skips s h), hbackends, hskips, List.mergeSort_nil]

/-- A pass with an entry that asks for a Service fails. -/
theorem value_sync_of_asks (hunsynced : s.synced = false)
    (h : ∃ entry ∈ table.entries, Asks entry) :
    (sync (Lookups.ofStores s) table).value = .error unfilled := by
  obtain ⟨entry, hmem, hasks⟩ := h
  obtain ⟨verdicts, hjudges⟩ | ⟨before, x, after, verdicts, e, hsplit, hjudges, hx⟩ :=
    judges_or_reaches (Lookups.ofStores s) table.entries
  · exact absurd (convert_eq_error_iff.mp (convert_of_asks hunsynced hasks))
      (hjudges.not_reaches hmem _)
  · rw [value_sync_of_reaches hsplit hjudges hx]
    -- The first entry that is not answered asks for a Service as well.
    have herror := convert_eq_error_iff.mpr hx
    obtain hasks | ⟨skip, hskip⟩ := asks_or_exists_skipped x
    · rw [convert_of_asks hunsynced hasks] at herror
      rw [Except.error.inj herror]
    · rw [convert_of_skippedUnasked s hskip] at herror
      cases herror

end Pass

/-- Before the stores have been filled, every pass fails closed, whatever they already hold. -/
theorem failsClosed_of_unsynced (s : Stores) (table : TextMap String)
    (hunsynced : s.synced = false) : FailsClosed s table := by
  by_cases hasks : ∃ entry ∈ table.entries, Asks entry
  · have hsync := value_sync_of_asks hunsynced hasks
    refine ⟨fun e => ?_, fun outcome => ?_⟩
    · rw [hsync, Except.error.injEq, and_iff_left hasks, eq_comm]
    · rw [hsync]
      obtain ⟨entry, hmem, hentry⟩ := hasks
      exact iff_of_false nofun fun h => h.1 entry hmem hentry
  · have hnone : ∀ entry ∈ table.entries, ¬ Asks entry := by simpa using hasks
    refine ⟨fun e => ?_, fun outcome => ?_⟩
    · obtain ⟨skips, hskips⟩ := exists_skips hnone
      rw [value_sync_of_skips s hskips]
      exact iff_of_false nofun fun h => hasks h.2
    · constructor
      · intro houtcome
        obtain ⟨skips, hskips⟩ := exists_skips hnone
        rw [value_sync_of_skips s hskips] at houtcome
        cases houtcome
        exact ⟨hnone, rfl, hskips⟩
      · rintro ⟨-, hbackends, hskips⟩
        rw [value_sync_of_skips s hskips, ← hbackends]

/-- Stores that already hold a Service with its endpoints and a secret, and have not been filled. -/
def partlyFilledStores : Stores :=
  { shopStores with synced := false }

/-- An entry for this Service with this secret makes a pass fail. One that cannot name a Service is
skipped. -/
theorem failsClosed_partlyFilledStores :
    partlyFilledStores.synced = false
      ∧ (sync (Lookups.ofStores partlyFilledStores)
          (single ("443", " default/shop : 443 ::: default/tls"))).value = .error unfilled
      ∧ (sync (Lookups.ofStores partlyFilledStores) (single ("443", "shop:443"))).value
        = .ok { skipped := [.serviceNotFound 443 "shop"] } := by
  refine ⟨rfl, ?_, ?_⟩
  · have hasks : Asks ("443", " default/shop : 443 ::: default/tls") :=
      ⟨⟨443, by decide⟩, by decide⟩
    exact ((failsClosed_of_unsynced partlyFilledStores (single _) rfl).error unfilled).mpr
      ⟨rfl, _, List.mem_singleton_self _, hasks⟩
  · have hskipped : SkippedUnasked ("443", "shop:443") (.serviceNotFound 443 "shop") :=
      .serviceNotFound ⟨by decide, by decide⟩ (by decide)
    refine ((failsClosed_of_unsynced partlyFilledStores (single _) rfl).ok _).mpr
      ⟨?_, rfl, .cons hskipped .nil⟩
    rintro entry hmem ⟨-, hslash⟩
    obtain rfl := List.mem_singleton.mp hmem
    exact absurd hslash (by decide)

end IngressController.TcpService
