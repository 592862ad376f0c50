import IngressController.Proofs.Controller.Steps
import IngressController.Proofs.Status.Leading
import IngressController.Proofs.Status.Run
import IngressController.Proofs.TcpService.Table
import Mathlib.Data.List.Induction

/-!
# `IngressController.Proofs.Controller.StartUp`: nothing begins on half-filled stores

The main task starts the reflectors and waits until each of them has listed the objects of its kind.
Only then it marks the stores as filled and starts what works on them: the configuration passes, and
once its pod has been found the status passes and the election. A list can be refused, and then it
is asked for again after a while, so the reflectors end in any order and at any times.

The environment can do anything but mark the stores: the tasks take turns in any order, signals come
and go unheard, and the server and what is in the stores can change between two turns. That a kind
has been listed is a fact about the run, so it stays true whatever becomes of the stores.

* `Host.around_run`: what every call keeps of the surroundings, the passes keep. So none of them
  takes the mark from the stores, which is `Steps.past`.
* `HasListed`: in some turn of the reflector of a kind the server has given the list, and the store
  holds it.
* `Phase`: how far a controller has come, with what is known of the initial lists in each phase.
  `phase_undergoAll` says that every run ends in one of them.
* `waitsForStores_undergoAll`: nothing that needs the stores is done before all watched kinds have
  been listed, no pass over the TCP services is aborted for stores that are not marked, and the
  wait ends when the last list has come.
-/

set_option autoImplicit false

namespace IngressController

open Object Api

/-! ### What the calls keep, the passes keep -/

namespace Status.Host

section Around

variable {κ : Type} {s : Surroundings κ} {I : κ → Prop}
  (hcall : ∀ c k, I k → I ((s.call c).run k).value.2)

include hcall

/-- Whatever every call keeps of the surroundings, every request keeps. -/
theorem around_answers (q : Ask) {h : Host κ} (hI : I h.around) :
    I ((answers s q).run h).value.2.around := by
  cases q with
  | call c => exact hcall c h.around hI
  | cancelled token => cases token <;> exact hI
  | _ => exact hI

theorem around_advance (p : Pass) (position : Nat) {h : Host κ} (hI : I h.around) :
    I ((p.advance (answers s) position).run h).value.2.around := by
  rw [Pass.value_advance_snd]
  cases p.request? position with
  | none => exact hI
  | some q => exact around_answers hcall q hI

/-- Every step of the run keeps it. -/
theorem around_step (setting : Setting) (now position : Nat) {h : Host κ} (hI : I h.around) :
    I ((step s setting now position).run h).value.2.around := by
  cases hp : h.pass with
  | none =>
      obtain ⟨queue, run, pass, hgoOn⟩ := exists_goOn setting now h
      rw [value_step_none hp, hgoOn]
      exact hI
  | some p =>
      cases hended : p.isEnded with
      | false =>
          rw [value_step_some hp hended]
          exact around_advance hcall p position hI
      | true =>
          cases p with
          | ended result =>
              rw [value_step_ended hp]
              exact hI
          | _ => cases hended

/-- So does every step of the withdrawal. -/
theorem around_stepWithdrawal (position : Nat) {h : Host κ} (hI : I h.around) :
    I ((stepWithdrawal s position).run h).value.2.around := by
  cases hp : h.withdrawal with
  | none =>
      obtain ⟨around, leadership, queue, passesEnd, run, pass, withdrawal⟩ := h
      cases hp
      exact hI
  | some p =>
      rw [value_stepWithdrawal hp]
      exact around_advance hcall p position hI

/-- And so does every program that asks the host. -/
theorem around_run {α : Type} (task : Task α) {h : Host κ} (hI : I h.around) :
    I ((task.run (answers s)).run h).value.2.around := by
  induction task generalizing h with
  | done a => exact hI
  | note n next ih => exact ih hI
  | rest next ih => exact ih hI
  | ask q next ih => exact ih _ (around_answers hcall q hI)

end Around

end Status.Host

namespace Controller

open Status

/-! ### The flag of the stores -/

theorem synced_refreshStore (server : Server) (stores : Stores) (kind : Kind) :
    (server.refreshStore stores kind).synced = stores.synced := by
  cases kind <;> rfl

/-- Filling a store a second time changes nothing. -/
theorem refreshStore_refreshStore (server : Server) (stores : Stores) (kind : Kind) :
    server.refreshStore (server.refreshStore stores kind) kind
      = server.refreshStore stores kind := by
  cases kind <;> rfl

/-- Stores that follow the server stay marked as they are. -/
theorem synced_follow (site : Site) : site.follow.stores.synced = site.stores.synced := by
  have hfold : ∀ (kinds : List Kind) (stores : Stores),
      (kinds.foldl site.server.refreshStore stores).synced = stores.synced := by
    intro kinds
    induction kinds with
    | nil => exact fun _ => rfl
    | cons kind kinds ih => exact fun stores => (ih _).trans (synced_refreshStore ..)
  exact hfold site.listed site.stores

theorem synced_call (c : Cluster.Call) (site : Site) :
    ((Site.surroundings.call c).run site).value.2.stores.synced = site.stores.synced :=
  synced_follow _

/-! ### Initial lists -/

/-- The server gives the list of a kind, and its objects are in the store. -/
structure Gives (kind : Kind) (site site' : Site) : Prop where
  /-- The request is not refused. -/
  granted : site.server.refuses "GET" kind.plural none = false
  /-- To fill the store with what the server has would change nothing. -/
  filled : site.server.refreshStore site'.stores kind = site'.stores

theorem gives_of_list? {kind : Kind} {site site' : Site} (h : site.list? kind = some site') :
    Gives kind site site' := by
  unfold Site.list? at h
  cases hrefused : site.server.refuses "GET" kind.plural none with
  | true =>
      rw [hrefused] at h
      cases h
  | false =>
      rw [hrefused] at h
      cases h
      refine ⟨hrefused, ?_⟩
      -- The kind has been listed last, so its store is filled last.
      show site.server.refreshStore ((site.listed ++ [kind]).foldl _ site.stores) kind = _
      rw [List.foldl_append, List.foldl_cons, List.foldl_nil, refreshStore_refreshStore]
      show _ = (site.listed ++ [kind]).foldl _ site.stores
      rw [List.foldl_append, List.foldl_cons, List.foldl_nil]

/-- A reflector that is not going to list has got its list, or it is put off. -/
theorem value_list_cases (r : Reflector) (now : Nat) (site : Site) :
    (∃ site', (r.list now site).value = ({ r with listAt := none }, site') ∧
      Gives r.kind site site' ∧ site'.stores.synced = site.stores.synced) ∨
    ∃ r', (r.list now site).value = (r', site) ∧ r'.kind = r.kind ∧ r'.listAt ≠ none := by
  unfold Reflector.list
  cases hlist : site.list? r.kind with
  | none => exact .inr ⟨_, rfl, rfl, Option.some_ne_none _⟩
  | some site' =>
      refine .inl ⟨site', rfl, gives_of_list? hlist, ?_⟩
      unfold Site.list? at hlist
      split at hlist
      · cases hlist
      · cases hlist
        exact synced_follow _

/-- When the reflector of a kind has its turn, it gets its list, or it is put off. -/
theorem reflectKind_cases {kind : Kind} {now : Nat} {site site' : Site}
    {reflectors reflectors' : List Reflector}
    (h : (reflectKind kind now site reflectors).value = some (reflectors', site')) :
    reflectors'.map (·.kind) = reflectors.map (·.kind) ∧
      site'.stores.synced = site.stores.synced ∧
      ∀ r ∈ reflectors', r.listAt = none →
        r ∈ reflectors ∨ r.kind = kind ∧ Gives kind site site' := by
  induction reflectors generalizing reflectors' with
  | nil => cases h
  | cons r rest ih =>
      unfold reflectKind at h
      split at h
      · next hkind =>
          subst hkind
          split at h
          · rw [Reported.value_bind] at h
            obtain ⟨site'', hvalue, hgives, hsynced⟩ | ⟨r', hvalue, hkind, hlistAt⟩ :=
              value_list_cases r now site
            · rw [hvalue] at h
              cases h
              refine ⟨rfl, hsynced, fun x hx hnone => ?_⟩
              rcases List.mem_cons.mp hx with rfl | hx
              · exact .inr ⟨rfl, hgives⟩
              · exact .inl (List.mem_cons_of_mem r hx)
            · rw [hvalue] at h
              cases h
              refine ⟨by rw [List.map_cons, List.map_cons, hkind], rfl, fun x hx hnone => ?_⟩
              rcases List.mem_cons.mp hx with rfl | hx
              · exact absurd hnone hlistAt
              · exact .inl (List.mem_cons_of_mem r hx)
          · cases h
      · obtain ⟨⟨others, site''⟩, hfound, heq⟩ := Option.map_eq_some_iff.mp h
        cases heq
        obtain ⟨hkinds, hsynced, hgiven⟩ := ih hfound
        refine ⟨by rw [List.map_cons, List.map_cons, hkinds], hsynced, fun x hx hnone => ?_⟩
        rcases List.mem_cons.mp hx with rfl | hx
        · exact .inl (List.mem_cons_self ..)
        · exact (hgiven x hx hnone).imp_left (List.mem_cons_of_mem r)

/-! ### What can happen -/

/-- Something that can happen to a controller if only itself can mark its stores as filled. -/
inductive Occurrence where
  /-- A task does the next thing that it has to do at a time. -/
  | turn (now : Nat) (task : Task)
  /-- A signal comes. -/
  | signal (s : Signal)
  /-- Others change what is on the server, and watches what is in the stores. -/
  | others (server : Server) (stores : Stores)

/-- The controller after something has happened. -/
def undergo (c : Controller) : Occurrence → Controller
  | .turn now task => (step now task c).value.getD c
  | .signal s => c.receive s
  | .others server stores =>
    { c with site :=
        { c.site with server, stores := { stores with synced := c.site.stores.synced } } }

/-- The controller after several things have happened. -/
def undergoAll (c : Controller) (os : List Occurrence) : Controller :=
  os.foldl undergo c

theorem undergoAll_append (c : Controller) (os os' : List Occurrence) :
    c.undergoAll (os ++ os') = (c.undergoAll os).undergoAll os' :=
  List.foldl_append ..

/-- A controller that has not done anything yet. -/
def begun (setup : Setup) (server : Server) : Controller :=
  { setup, site := { server } }

/-- A kind has been listed in a run: in a turn of its reflector the server gave the list, and it
went into the store. -/
def HasListed (start : Controller) (os : List Occurrence) (kind : Kind) : Prop :=
  ∃ before now after c', os = before ++ .turn now (.reflector kind) :: after ∧
    (step now (.reflector kind) (start.undergoAll before)).value = some c' ∧
    Gives kind (start.undergoAll before).site c'.site

/-- What has been listed stays listed. -/
theorem HasListed.append {start : Controller} {os : List Occurrence} {kind : Kind}
    (h : HasListed start os kind) (os' : List Occurrence) : HasListed start (os ++ os') kind := by
  obtain ⟨before, now, after, c', rfl, hstep, hgives⟩ := h
  refine ⟨before, now, after ++ os', c', ?_, hstep, hgives⟩
  rw [List.append_assoc, List.cons_append]

/-! ### The stages before and after the stores are filled -/

/-- Whether the main task has got past waiting for the stores, or has given up before. -/
def Stage.isPast : Stage → Bool
  | .starting | .waitingForStores => false
  | _ => true

section Stages

variable {now position : Nat} {task : Task} {c c' : Controller}

theorem value_start_cases (now : Nat) (c : Controller) :
    (∃ outcome, (c.start now).value = c.goOn (.ended outcome)) ∨
    ∃ stores, stores.synced = c.site.stores.synced ∧ (c.start now).value =
      { c with
        reflectors := Kind.watched.map fun kind => { kind, listAt := some now }
        stage := .waitingForStores
        site := { c.site with stores } } := by
  unfold start
  rw [Reported.value_bind]
  split
  · exact .inl ⟨_, rfl⟩
  · exact .inr ⟨{ c.site.stores with sslDir := c.setup.options.sslDir }, rfl, rfl⟩

theorem value_serve (now : Nat) (c : Controller) :
    ∃ stage ticker, stage.isPast = true ∧ ticker.isDue now = true ∧ (c.serve now).value =
      { c with
        stage
        site := { c.site with stores := { c.site.stores with synced := true } }
        ticker := some ticker } := by
  have hdue : ∀ period, (Ticker.start period now).isDue now = true := fun _ =>
    decide_eq_true (Nat.le_refl now)
  unfold serve
  rw [Reported.value_bind]
  split
  · simp only
    split
    · exact ⟨.identifying, _, rfl, hdue _, rfl⟩
    · exact ⟨.identifying, _, rfl, hdue _, rfl⟩
  · simp only
    split
    · exact ⟨.serving, _, rfl, hdue _, rfl⟩
    · exact ⟨.serving, _, rfl, hdue _, rfl⟩

/-- A configuration pass that is due is made. -/
theorem isSome_configure {ticker : Ticker} (hticker : c.ticker = some ticker)
    (hdue : ticker.isDue now = true) : (c.configure now).value.isSome = true := by
  rw [configure, hticker]
  simp only [if_pos hdue, Reported.value_bind]
  rfl

/-- When no reflector has anything left to do, the main task has. -/
theorem value_lead_of_waiting (hstage : c.stage = .waitingForStores)
    (hall : ∀ r ∈ c.reflectors, r.listAt = none) (position now : Nat) :
    (c.lead position now).value = some (c.serve now).value := by
  have hlisted : c.reflectors.all (·.listAt.isNone) = true :=
    List.all_eq_true.mpr fun r hr => Option.isNone_iff_eq_none.mpr (hall r hr)
  simp only [lead, hstage, if_pos hlisted]
  rfl

/-- The flag of the stores is as it was after any step of the passes. -/
theorem synced_onPasses {tasks : StatusTasks} {f : StateT (Host Site) Reported Unit} {b : Bool}
    (hf : ∀ h : Host Site, h.around.stores.synced = b →
      (f.run h).value.2.around.stores.synced = b)
    (hc : c.site.stores.synced = b) : (c.onPasses tasks f).value.site.stores.synced = b :=
  hf (tasks.passes.moveTo c.site) hc

theorem synced_identify (now : Nat) {b : Bool} (hc : c.site.stores.synced = b) :
    (c.identify now).value.site.stores.synced = b := by
  unfold identify
  rw [Reported.value_bind]
  have haround := Host.around_run (I := fun site : Site => site.stores.synced = b)
    (fun c site h => (synced_call c site).trans h)
    (podDetails ((c.setup.environment.get? "POD_NAMESPACE").getD "")
      ((c.setup.environment.get? "POD_NAME").getD ""))
    (h := { around := c.site
            leadership := { identity := (c.setup.environment.get? "POD_NAME").getD "" } }) hc
  split
  next found h hfound =>
    rw [hfound] at haround
    cases found with
    | ok pod => exact haround
    | error e => exact haround

/-- Past the wait no step goes back to it, and none changes the flag of the stores. -/
theorem Steps.past {b : Bool} (h : Steps now c task c') (hpast : c.stage.isPast = true)
    (hsynced : c.site.stores.synced = b) :
    c'.stage.isPast = true ∧ c'.site.stores.synced = b := by
  have hcall : ∀ call (site : Site), site.stores.synced = b →
      ((Site.surroundings.call call).run site).value.2.stores.synced = b :=
    fun call site h => (synced_call call site).trans h
  cases h with
  | reflects hfound => exact ⟨hpast, (reflectKind_cases hfound).2.1.trans hsynced⟩
  | configures => exact ⟨hpast, hsynced⟩
  | keeps hstatus hdue =>
      exact ⟨hpast, synced_onPasses (fun h => Host.around_step hcall _ _ _) hsynced⟩
  | elects hstatus hstep => exact ⟨hpast, hsynced⟩
  | givesUp hstage hclient => exact ⟨rfl, hsynced⟩
  | starts hstage =>
      rw [hstage] at hpast
      cases hpast
  | serves hstage hnext =>
      rw [hstage] at hpast
      cases hpast
  | identifies hstage =>
      refine ⟨?_, synced_identify now hsynced⟩
      rcases identify_cases now c with ⟨site, tasks, -, hvalue⟩ | ⟨site, e, hvalue⟩
      · rw [hvalue]
        rfl
      · rw [hvalue]
        rfl
  | shutsDown hstage hcause => exact ⟨rfl, hsynced⟩
  | withdraws hstage hstatus hunder =>
      exact ⟨hpast, synced_onPasses (fun h => Host.around_stepWithdrawal hcall _) hsynced⟩
  | withdrawn hstage hended => exact ⟨rfl, hsynced⟩
  | cancels hstage hended => exact ⟨rfl, hsynced⟩
  | finishes hstage hended => exact ⟨rfl, hsynced⟩

end Stages

/-- No task but the main one and the reflectors has been started, and no store is marked. -/
structure Idle (c : Controller) : Prop where
  ticker : c.ticker = none
  status : c.status = none
  unmarked : c.site.stores.synced = false

/-- How far a controller has come with its stores in a run. -/
inductive Phase (start : Controller) (os : List Occurrence) (c : Controller) : Prop where
  /-- Nothing has been started. -/
  | early (stage : c.stage = .starting) (idle : c.Idle)
  /-- The reflectors are at work, and each that has nothing left to do has listed its kind. -/
  | waiting (stage : c.stage = .waitingForStores) (idle : c.Idle)
      (kinds : c.reflectors.map (·.kind) = Kind.watched)
      (listed : ∀ r ∈ c.reflectors, r.listAt = none → HasListed start os r.kind)
  /-- The controller has ended without a cluster. -/
  | gaveUp (stage : ∃ outcome, c.stage = .ended outcome) (idle : c.Idle)
  /-- The stores are filled and marked so. -/
  | filled (stage : c.stage.isPast = true) (synced : c.site.stores.synced = true)
      (listed : ∀ kind ∈ Kind.watched, HasListed start os kind)

section Phases

variable {start c c' : Controller} {os : List Occurrence} {now : Nat} {task : Task}

/-- As long as nothing else has been started, only the main task and the reflectors do anything. -/
theorem Idle.eq_main_or_reflector (h : c.Idle) (hstep : (step now task c).value = some c') :
    (∃ position, task = .main position) ∨ ∃ kind, task = .reflector kind := by
  cases task with
  | main position => exact .inl ⟨position, rfl⟩
  | reflector kind => exact .inr ⟨kind, rfl⟩
  | configuration =>
      change (c.configure now).value = some c' at hstep
      rw [configure, h.ticker] at hstep
      cases hstep
  | passes position =>
      change (c.keepStatus position now).value = some c' at hstep
      rw [keepStatus, h.status] at hstep
      cases hstep
  | candidate =>
      change (c.elect now).value = some c' at hstep
      rw [elect, h.status] at hstep
      cases hstep

/-- And if the main task has ended, only the reflectors are left. -/
theorem Idle.eq_reflector (h : c.Idle) (hended : ∃ outcome, c.stage = .ended outcome)
    (hstep : (step now task c).value = some c') : ∃ kind, task = .reflector kind := by
  obtain ⟨outcome, hended⟩ := hended
  rcases h.eq_main_or_reflector hstep with ⟨position, rfl⟩ | hreflector
  · change (c.lead position now).value = some c' at hstep
    simp only [lead, hended] at hstep
    cases hstep
  · exact hreflector

/-- To fill a store starts nothing else. -/
theorem Idle.reflects (h : c.Idle) {kind : Kind} {reflectors : List Reflector} {site : Site}
    (hfound : (reflectKind kind now c.site c.reflectors).value = some (reflectors, site)) :
    Idle { c with reflectors, site } :=
  ⟨h.ticker, h.status, (reflectKind_cases hfound).2.1.trans h.unmarked⟩

/-- What else happens afterwards does not change how far a controller has come. -/
theorem Phase.append (h : Phase start os c) (os' : List Occurrence) :
    Phase start (os ++ os') c := by
  cases h with
  | early stage idle => exact .early stage idle
  | waiting stage idle kinds listed =>
      exact .waiting stage idle kinds fun r hr hnone => (listed r hr hnone).append os'
  | gaveUp stage idle => exact .gaveUp stage idle
  | filled stage synced listed =>
      exact .filled stage synced fun kind hkind => (listed kind hkind).append os'

/-- A turn of a reflector that gets its list lists the kind in the run. -/
theorem hasListed_of_step {kind : Kind}
    (hstep : (step now (.reflector kind) (start.undergoAll os)).value = some c')
    (hgives : Gives kind (start.undergoAll os).site c'.site) :
    HasListed start (os ++ [.turn now (.reflector kind)]) kind :=
  ⟨os, now, [], c', rfl, hstep, hgives⟩

/-- A step of a controller that waits for its stores: a reflector has its turn, or all of them have
nothing left to do. -/
theorem Phase.step_waiting (hc : c = start.undergoAll os) (stage : c.stage = .waitingForStores)
    (idle : c.Idle) (kinds : c.reflectors.map (·.kind) = Kind.watched)
    (listed : ∀ r ∈ c.reflectors, r.listAt = none → HasListed start os r.kind)
    (hstep : (step now task c).value = some c') : Phase start (os ++ [.turn now task]) c' := by
  rcases idle.eq_main_or_reflector hstep with ⟨position, rfl⟩ | ⟨kind, rfl⟩
  · -- The main task goes on only when no reflector has anything left to do.
    change (c.lead position now).value = some c' at hstep
    simp only [lead, stage] at hstep
    split at hstep
    · next hall =>
        obtain ⟨next, ticker, hpast, -, hvalue⟩ := value_serve now c
        obtain rfl : (c.serve now).value = c' := Option.some.inj hstep
        rw [hvalue]
        refine .filled hpast rfl fun kind hkind => ?_
        rw [← kinds] at hkind
        obtain ⟨r, hr, rfl⟩ := List.mem_map.mp hkind
        have hnone : r.listAt = none := Option.isNone_iff_eq_none.mp (List.all_eq_true.mp hall r hr)
        exact (listed r hr hnone).append _
    · cases hstep
  · have hturn := hstep
    obtain ⟨⟨reflectors, site⟩, hfound, rfl⟩ := Option.map_eq_some_iff.mp hstep
    obtain ⟨hkinds, -, hgiven⟩ := reflectKind_cases hfound
    refine .waiting stage (idle.reflects hfound) (hkinds.trans kinds) fun r hr hnone => ?_
    rcases hgiven r hr hnone with hold | ⟨rfl, hgives⟩
    · exact (listed r hold hnone).append _
    · subst hc
      exact hasListed_of_step hturn hgives

/-- Each step keeps account of the initial lists. -/
theorem Phase.step (h : Phase start os c) (hc : c = start.undergoAll os)
    (hstep : (step now task c).value = some c') : Phase start (os ++ [.turn now task]) c' := by
  cases h with
  | early stage idle =>
      rcases idle.eq_main_or_reflector hstep with ⟨position, rfl⟩ | ⟨kind, rfl⟩
      · change (c.lead position now).value = some c' at hstep
        simp only [lead, stage] at hstep
        obtain rfl : (c.start now).value = c' := Option.some.inj hstep
        rcases value_start_cases now c with ⟨outcome, hvalue⟩ | ⟨stores, hsynced, hvalue⟩
        · rw [hvalue]
          exact .gaveUp ⟨outcome, rfl⟩ ⟨idle.ticker, idle.status, idle.unmarked⟩
        · rw [hvalue]
          refine .waiting rfl ⟨idle.ticker, idle.status, hsynced.trans idle.unmarked⟩ rfl ?_
          intro r hr hnone
          -- A reflector that has just been started has its list to get.
          obtain ⟨kind, -, rfl⟩ := List.mem_map.mp hr
          cases hnone
      · obtain ⟨⟨reflectors, site⟩, hfound, rfl⟩ := Option.map_eq_some_iff.mp hstep
        exact .early stage (idle.reflects hfound)
  | waiting stage idle kinds listed => exact step_waiting hc stage idle kinds listed hstep
  | gaveUp stage idle =>
      obtain ⟨kind, rfl⟩ := idle.eq_reflector stage hstep
      obtain ⟨⟨reflectors, site⟩, hfound, rfl⟩ := Option.map_eq_some_iff.mp hstep
      exact .gaveUp stage (idle.reflects hfound)
  | filled stage synced listed =>
      obtain ⟨hpast, hsynced⟩ := (steps_of_step hstep).past stage synced
      exact .filled hpast hsynced fun kind hkind => (listed kind hkind).append _

/-- So does whatever else happens: signals, and what others change, say nothing about them. -/
theorem Phase.undergo (h : Phase start os c) (hc : c = start.undergoAll os) (o : Occurrence) :
    Phase start (os ++ [o]) (c.undergo o) := by
  cases o with
  | turn now task =>
      show Phase start (os ++ [.turn now task]) ((Controller.step now task c).value.getD c)
      cases hstep : (Controller.step now task c).value with
      | none => exact h.append _
      | some c' => exact h.step hc hstep
  | signal s =>
      show Phase start (os ++ [.signal s]) (c.receive s)
      unfold receive
      split
      · next hserving =>
          cases h.append [.signal s] with
          | early stage idle => cases hserving.symm.trans stage
          | waiting stage idle kinds listed => cases hserving.symm.trans stage
          | gaveUp stage idle =>
              obtain ⟨outcome, hended⟩ := stage
              cases hserving.symm.trans hended
          | filled stage synced listed => exact .filled stage synced listed
      · exact h.append _
  | others server stores =>
      cases h.append [.others server stores] with
      | early stage idle => exact .early stage ⟨idle.ticker, idle.status, idle.unmarked⟩
      | waiting stage idle kinds listed =>
          exact .waiting stage ⟨idle.ticker, idle.status, idle.unmarked⟩ kinds listed
      | gaveUp stage idle => exact .gaveUp stage ⟨idle.ticker, idle.status, idle.unmarked⟩
      | filled stage synced listed => exact .filled stage synced listed

/-- In every run a controller is in one of the phases. -/
theorem phase_undergoAll (setup : Setup) (server : Server) (os : List Occurrence) :
    Phase (begun setup server) os ((begun setup server).undergoAll os) := by
  induction os using List.reverseRecOn with
  | nil => exact .early rfl ⟨rfl, rfl, rfl⟩
  | append_singleton os o ih =>
      rw [undergoAll_append]
      exact ih.undergo rfl o

end Phases

/-! ### The barrier -/

/-- Whether a turn of a task is work that needs the stores: a pass over the configuration, anything
of the status passes or of the election, and of the main task whatever follows the wait. -/
def needsStores (c : Controller) : Task → Bool
  | .reflector _ => false
  | .main _ => c.stage.isPast
  | .configuration | .passes _ | .candidate => true

/-- What a controller has to do with the filling of its stores:

- `waits`: a task does what needs the stores only after all watched kinds have been listed;
- `marked`: and the stores are marked as filled only then;
- `answers`: so when a configuration pass is made, a pass over any table of TCP services has a
  result, and none is aborted by a look-up in stores that are not marked;
- `goesOn`: the wait has an end: when no reflector has anything left to do, the main task marks the
  stores in its next turn, and the first configuration pass can be made. -/
structure WaitsForStores (start : Controller) (os : List Occurrence) : Prop where
  waits : ∀ now task c', (step now task (start.undergoAll os)).value = some c' →
    (start.undergoAll os).needsStores task = true →
    ∀ kind ∈ Kind.watched, HasListed start os kind
  marked : (start.undergoAll os).site.stores.synced = true →
    ∀ kind ∈ Kind.watched, HasListed start os kind
  answers : ∀ now c', (step now .configuration (start.undergoAll os)).value = some c' →
    ∀ table, ∃ outcome,
      (TcpService.sync (.ofStores (start.undergoAll os).site.stores) table).value = .ok outcome
  goesOn : (start.undergoAll os).stage = .waitingForStores →
    (∀ r ∈ (start.undergoAll os).reflectors, r.listAt = none) → ∀ now position,
      ∃ c', (step now (.main position) (start.undergoAll os)).value = some c' ∧
        c'.site.stores.synced = true ∧ (step now .configuration c').value.isSome = true

/-- In stores that are marked as filled a pass over a table has a result. -/
theorem exists_outcome_of_synced {stores : Stores} (h : stores.synced = true)
    (table : TextMap String) :
    ∃ outcome, (TcpService.sync (.ofStores stores) table).value = .ok outcome := by
  have hanswers : ∀ {α : Type} (kind : String) (answer : α) (e : CacheError),
      stores.whenSynced kind answer ≠ .error e := by
    intro α kind answer e herror
    rw [Stores.whenSynced, if_pos h] at herror
    cases herror
  have hnone : ∀ x e, ¬(TcpService.Lookups.ofStores stores).Reaches x e :=
    TcpService.Lookups.not_reaches (fun _ _ e => hanswers "service" _ e)
      (fun _ e => hanswers "secret" _ e) (fun _ e => hanswers "endpoints" _ e)
  obtain ⟨verdicts, hjudges⟩ | ⟨before, x, after, verdicts, e, -, -, hx⟩ :=
    TcpService.judges_or_reaches (.ofStores stores) table.entries
  · exact ⟨_, TcpService.value_sync_of_judges hjudges⟩
  · exact absurd hx (hnone x e)

section Phases

variable {start c c' : Controller} {os : List Occurrence} {now : Nat} {task : Task}

/-- As long as nothing else has been started, nothing is done that needs the stores, if the main
task is not past the wait. -/
theorem Idle.needsStores_eq_false (h : c.Idle) (hmain : c.stage.isPast = false)
    (hstep : (step now task c).value = some c') : c.needsStores task = false := by
  rcases h.eq_main_or_reflector hstep with ⟨position, rfl⟩ | ⟨kind, rfl⟩
  · exact hmain
  · rfl

/-- What is done that needs the stores is done when they are filled. -/
theorem Phase.filled_of_step (h : Phase start os c)
    (hstep : (Controller.step now task c).value = some c')
    (hneeds : c.needsStores task = true) :
    c.site.stores.synced = true ∧ ∀ kind ∈ Kind.watched, HasListed start os kind := by
  have hnot : c.needsStores task ≠ false := by
    rw [hneeds]
    exact Bool.noConfusion
  cases h with
  | early stage idle => exact absurd (idle.needsStores_eq_false (by rw [stage]; rfl) hstep) hnot
  | waiting stage idle kinds listed =>
      exact absurd (idle.needsStores_eq_false (by rw [stage]; rfl) hstep) hnot
  | gaveUp stage idle =>
      obtain ⟨kind, rfl⟩ := idle.eq_reflector stage hstep
      cases hneeds
  | filled stage synced listed => exact ⟨synced, listed⟩

/-- The stores are marked as filled only when they are. -/
theorem Phase.filled_of_synced (h : Phase start os c) (hsynced : c.site.stores.synced = true) :
    ∀ kind ∈ Kind.watched, HasListed start os kind := by
  have hidle : ¬c.Idle := fun idle => Bool.noConfusion (hsynced.symm.trans idle.unmarked)
  cases h with
  | early stage idle => exact absurd idle hidle
  | waiting stage idle kinds listed => exact absurd idle hidle
  | gaveUp stage idle => exact absurd idle hidle
  | filled stage synced listed => exact listed

end Phases

/-- A controller waits for its stores, in whatever order its tasks take turns and at whatever times
the reflectors get their lists, whatever signals come and whatever changes elsewhere. -/
theorem waitsForStores_undergoAll (setup : Setup) (server : Server) (os : List Occurrence) :
    WaitsForStores (begun setup server) os := by
  have hphase := phase_undergoAll setup server os
  refine
    { waits := fun now task c' hstep hneeds => (hphase.filled_of_step hstep hneeds).2
      marked := hphase.filled_of_synced
      answers := fun now c' hstep table => ?_
      goesOn := fun hstage hall now position => ?_ }
  · exact exists_outcome_of_synced (hphase.filled_of_step hstep rfl).1 table
  · obtain ⟨stage, ticker, -, hdue, hvalue⟩ :=
      value_serve now ((begun setup server).undergoAll os)
    refine ⟨_, value_lead_of_waiting hstage hall position now, ?_⟩
    rw [hvalue]
    exact ⟨rfl, isSome_configure rfl hdue⟩

/-- A server that refuses to list the secrets. -/
def refusingServer : Server where
  failing := ["GET secrets"]

/-- The reflectors have their turns, but the secrets are refused until others allow them. -/
def delayed : List Occurrence :=
  .turn 0 (.main 0) :: Kind.watched.map (fun kind => .turn 0 (.reflector kind)) ++
    [.turn 0 (.main 0), .others {} {}, .turn 800 (.reflector .secret), .turn 800 (.main 0)]

/-- The controller then makes its first configuration pass, which it did not make before. -/
theorem hasListed_of_delayed :
    ((step 1 .configuration ((begun {} refusingServer).undergoAll (delayed.take 7))).value.isNone
      ∧ (step 800 .configuration ((begun {} refusingServer).undergoAll delayed)).value.isSome)
    ∧ ∀ kind ∈ Kind.watched, HasListed (begun {} refusingServer) delayed kind := by
  have hturns : (step 1 .configuration
        ((begun {} refusingServer).undergoAll (delayed.take 7))).value.isNone
      ∧ (step 800 .configuration ((begun {} refusingServer).undergoAll delayed)).value.isSome := by
    decide +kernel
  obtain ⟨c', hstep⟩ := Option.isSome_iff_exists.mp hturns.2
  exact ⟨hturns, (waitsForStores_undergoAll {} refusingServer delayed).waits 800 .configuration c'
    hstep rfl⟩

end Controller

end IngressController
