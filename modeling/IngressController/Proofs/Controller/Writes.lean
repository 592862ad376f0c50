import IngressController.Proofs.Controller.Steps
import IngressController.Proofs.Status.Leading
import IngressController.Proofs.Status.Run

/-!
# `IngressController.Proofs.Controller.Writes`: what makes the server note a write

The API server keeps a list of the Ingresses whose status has been written. All tasks of the
controller change the server: the candidate creates, takes and frees a lease, the passes and the
withdrawal make calls. The list grows only by a call that publishes.

* `Controller.request?`: the request that a task makes next for the passes or the withdrawal.
* `Controller.writes_of_step`: if this is no call that publishes, the server notes no write in the
  step, whatever else the step does.
-/

set_option autoImplicit false

namespace IngressController

/-! ### Requests to the server -/

namespace Api

/-- A request that only reads. -/
def Request.Gets (r : Request) : Prop :=
  r.method = .get

theorem ensures_sendTo {α : Type} (read : Json → Option α) (request : Location → Request)
    (h : ∀ l, (request l).Gets) (location : Except Cluster.Flaw Location) :
    (sendTo read request location).Ensures Request.Gets (fun _ _ => True) fun _ => True := by
  cases location with
  | error flaw => trivial
  | ok location => exact ⟨h location, fun _ _ => trivial⟩

theorem ensures_listFrom {α : Type} (read : Json → Option α) (list selector : String)
    (pages : Nat) (token : Option String) (found : List α) :
    (listFrom read list selector pages token found).Ensures Request.Gets (fun _ _ => True)
      fun _ => True := by
  -- Each page is read with another token.
  induction pages generalizing token found with
  | zero => trivial
  | succ pages ih =>
      unfold listFrom
      rw [Program.ensures_bind]
      have hpage := ensures_sendTo (Page.ofJson? read) ({ method := .get, location := · })
        (fun _ => rfl) (pageLocation list selector token)
      refine hpage.mono (fun _ hr => hr) fun page _ => ?_
      cases page with
      | error failure => trivial
      | ok page =>
          simp only
          split
          · trivial
          · exact ih _ _

theorem ensures_getObject {α : Type} (read : Json → Option α) (list name : String) :
    (getObject read list name).Ensures Request.Gets (fun _ _ => True) fun _ => True :=
  ensures_sendTo read ({ method := .get, location := · }) (fun _ => rfl)
    (Location.ofObject list name)

/-- A call that does not publish only reads. -/
theorem ensures_perform (pages : Nat) {c : Cluster.Call}
    (hc : (Status.Ask.call c).isPublish = false) :
    (perform pages c).Ensures Request.Gets (fun _ _ => True) fun _ => True := by
  cases c with
  | publish ing => cases hc
  | listPods namespaceName selector => exact ensures_listFrom _ _ _ _ _ _
  | getPod namespaceName name => exact ensures_getObject _ _ _
  | getNode name => exact ensures_getObject _ _ _
  | getService namespaceName name => exact ensures_getObject _ _ _
  | getIngress namespaceName name => exact ensures_getObject _ _ _

namespace Server

variable (s : Server)

/-- A request that only reads changes nothing. -/
theorem respond_of_gets {r : Request} (hr : r.Gets) : (s.respond r).2 = s := by
  unfold respond
  rw [show r.method = .get from hr]
  cases target? r.location.path with
  | none => rfl
  | some target =>
      cases target with
      | list namespaceName plural =>
          simp only
          split <;> rfl
      | status key => rfl
      | object plural key =>
          simp only
          split
          · rfl
          · split <;> rfl

/-- A call that does not publish changes nothing. -/
theorem call_of_not_publish {c : Cluster.Call} (hc : (Status.Ask.call c).isPublish = false) :
    ((call c).run s).value.2 = s := by
  -- The state is kept along the whole program of requests.
  have hanswer : ∀ r, Request.Gets r → ∀ s', s' = s →
      True ∧ ((answer r).run s').value.2 = s := by
    intro r hr s' hs'
    rw [hs']
    exact ⟨trivial, s.respond_of_gets hr⟩
  exact ((ensures_perform 1 hc).run (I := fun s' => s' = s) hanswer rfl).2

/-! ### The lease -/

variable {s} {s' : Server}

theorem writes_of_createLease {location : Except Cluster.Flaw Location} {name : String}
    (h : s.createLease location name = .ok s') : s'.writes = s.writes := by
  unfold createLease at h
  split at h
  · simp only at h
    split at h
    · cases h
    · cases h
      rfl
  · cases h

theorem writes_of_changeLease {location : Except Cluster.Flaw Location} {patch : Json}
    (h : s.changeLease location patch = .ok s') : s'.writes = s.writes := by
  unfold changeLease at h
  split at h
  · cases h
  · split at h
    · split at h
      · cases h
      · cases h
        rfl
    · cases h

end Server

end Api

namespace Election

open Api

namespace Manager

section Writes

variable {c : Config} {identity : String} {now : Nat} {m : Manager} {s : Server} {patch : Json}

theorem writes_change : (m.change c s patch).2.writes = s.writes := by
  unfold change
  split
  · rfl
  · next hchange =>
      have hwrites := Server.writes_of_changeLease hchange
      exact hwrites

theorem writes_changeAndLook : (m.changeAndLook c now s patch).2.writes = s.writes := by
  have hwrites : (m.change c s patch).2.writes = s.writes := writes_change
  unfold changeAndLook
  split
  · next hchange => rwa [hchange] at hwrites
  · next hchange => rwa [hchange] at hwrites

theorem writes_free : (m.free c now s).2.writes = s.writes := by
  have hwrites : (m.change c s Lease.freeing).2.writes = s.writes := writes_change
  unfold free
  split
  · next hchange => rwa [hchange] at hwrites
  · next hchange => rwa [hchange] at hwrites
  · next hchange => rwa [hchange] at hwrites

theorem writes_act : (m.act c identity now s).2.writes = s.writes := by
  unfold act
  split
  · rfl
  · split
    · exact writes_changeAndLook
    · split
      · rfl
      · exact writes_free

theorem writes_look : (m.look c identity now s).2.2.writes = s.writes := by
  unfold look
  split
  · exact writes_changeAndLook
  · rfl
  · rfl
  · unfold goOn
    split
    · rfl
    · simp only
      split
      · exact writes_act
      · rfl

theorem writes_close : (m.close c identity s).2.writes = s.writes := by
  have hrelease : (m.release c identity s).2.writes = s.writes := by
    unfold release
    split
    · rfl
    · split
      · exact writes_change
      · rfl
  unfold close
  split
  · next hresult => rwa [hresult] at hrelease
  · next hresult => rwa [hresult] at hrelease

end Writes

end Manager

namespace Candidate

theorem writes_prepare (c : Candidate) (s : Server) : (c.prepare s).2.writes = s.writes := by
  unfold prepare
  split
  · rfl
  · rfl
  · split
    · rfl
    · next hcreate =>
        have hwrites := Server.writes_of_createLease hcreate
        exact hwrites

theorem writes_manage (c : Candidate) (now : Nat) (s : Server) :
    (c.manage now s).value.2.writes = s.writes := by
  have hlook : (c.manager.look c.config c.elector.leadership.identity now s).2.2.writes
      = s.writes := Manager.writes_look
  unfold manage
  generalize c.manager.look c.config c.elector.leadership.identity now s = looked at hlook
  obtain ⟨told, manager, s'⟩ := looked
  simp only
  split <;> exact hlook

/-- A candidate is about a lease only. -/
theorem Steps.writes {c c' : Candidate} {now : Nat} {s s' : Server} (h : Steps c now s c' s') :
    s'.writes = s.writes := by
  cases h with
  | prepares hphase => exact c.writes_prepare s
  | cancels hphase hcancelled => rfl
  | looks hphase hdue => rfl
  | manages hphase hdue => exact c.writes_manage now s
  | ends hphase hreleased => rfl
  | closes hphase hreleased hclose => exact Manager.writes_close

end Candidate

end Election

namespace Status

/-! ### Passes -/

theorem ensures_podDetails {may : Ask → Prop} {replies : (q : Ask) → q.Answer → Prop}
    (hmay : ∀ c : Cluster.Call, c.isAboutIngress = false → may (.call c))
    (namespaceName name : String) :
    (podDetails namespaceName name).Ensures may replies fun _ => True := by
  rw [podDetails]
  split
  · trivial
  · rw [Program.ensures_bind]
    refine ⟨hmay _ rfl, fun outcome _ => ?_⟩
    cases outcome with
    | ok pod =>
        show (nodeAddress pod.nodeText true >>= _).Ensures _ _ _
        rw [Program.ensures_bind]
        exact (ensures_nodeAddress hmay _ _).mono (fun _ h => h) fun _ _ => trivial
    | error failure =>
        cases failure with
        | refused code =>
            show (if code = 404 then (pure _ : Task _) else pure _).Ensures _ _ _
            split <;> trivial
        | _ => trivial

namespace Host

section Server

open Controller

variable {setting : Setting} {h : Host Site} {now position : Nat}

/-- A request that is no write leaves the server alone. -/
theorem server_answers {q : Ask} (hq : q.isPublish = false) :
    ((answers Site.surroundings q).run h).value.2.around.server = h.around.server := by
  cases q with
  | call c => exact h.around.server.call_of_not_publish hq
  | cancelled token => cases token <;> rfl
  | _ => rfl

/-- A step of a pass that makes no write leaves the server alone. -/
theorem server_advance {p : Pass} (hp : p.asks Ask.isPublish position = false) :
    ((p.advance (answers Site.surroundings) position).run h).value.2.around.server
      = h.around.server := by
  rw [Pass.value_advance_snd]
  unfold Pass.asks at hp
  cases hrequest : p.request? position with
  | none => rfl
  | some q =>
      rw [hrequest] at hp
      exact server_answers hp

/-- A step of the run that makes no write leaves the server alone. -/
theorem server_step (hpass : h.pass.any (·.asks Ask.isPublish position) = false) :
    ((step Site.surroundings setting now position).run h).value.2.around.server
      = h.around.server := by
  cases hp : h.pass with
  | none =>
      obtain ⟨queue, run, pass, hgoOn⟩ := exists_goOn setting now h
      rw [value_step_none hp, hgoOn]
  | some p =>
      rw [hp] at hpass
      cases hended : p.isEnded with
      | false =>
          rw [value_step_some hp hended]
          exact server_advance hpass
      | true =>
          cases p with
          | ended result => rw [value_step_ended hp]
          | _ => cases hended

/-- A step of the withdrawal that makes no write leaves the server alone. -/
theorem server_stepWithdrawal (hasks : h.withdrawal.any (·.asks Ask.isPublish position) = false) :
    ((stepWithdrawal Site.surroundings position).run h).value.2.around.server
      = h.around.server := by
  cases hp : h.withdrawal with
  | none =>
      obtain ⟨around, leadership, queue, passesEnd, run, pass, withdrawal⟩ := h
      cases hp
      rfl
  | some p =>
      rw [hp] at hasks
      rw [value_stepWithdrawal hp]
      exact server_advance hasks

end Server

end Host

end Status

/-! ### Tasks -/

namespace Controller

open Object Status

/-- The request that a task makes next for the passes or for the withdrawal. -/
def request? (now : Nat) (task : Task) (c : Controller) : Option Ask :=
  match task, c.status, c.stage with
  | .passes position, some tasks, _ =>
    if tasks.passes.isDue now then tasks.passes.pass.bind (·.request? position) else none
  | .main position, some tasks, .withdrawing _ =>
    tasks.passes.withdrawal.bind (·.request? position)
  | _, _, _ => none

/-- Whether a task writes the status of an Ingress next. -/
def publishes (now : Nat) (task : Task) (c : Controller) : Bool :=
  (c.request? now task).any Ask.isPublish

section Steps

variable {c c' : Controller} {now position : Nat}

theorem server_list (r : Reflector) (now : Nat) (site : Site) :
    (r.list now site).value.2.server = site.server := by
  unfold Reflector.list Site.list?
  split
  · next hlist =>
      split at hlist
      · cases hlist
      · cases hlist
        rfl
  · rfl

/-- To fill a store changes nothing on the server. -/
theorem server_of_reflectKind {kind : Kind} {site site' : Site}
    {reflectors reflectors' : List Reflector}
    (h : (reflectKind kind now site reflectors).value = some (reflectors', site')) :
    site'.server = site.server := by
  induction reflectors generalizing reflectors' with
  | nil => cases h
  | cons r rest ih =>
      unfold reflectKind at h
      split at h
      · split at h
        · cases h
          exact server_list r now site
        · cases h
      · obtain ⟨⟨others, site''⟩, hfound, heq⟩ := Option.map_eq_some_iff.mp h
        cases heq
        exact ih hfound

/-- To find out the details of a pod changes nothing on the server. -/
theorem server_podDetails (namespaceName name : String) (h : Host Site) :
    (((podDetails namespaceName name).run
      (Host.answers Site.surroundings)).run h).value.2.around.server = h.around.server := by
  have hquiet : (podDetails namespaceName name).Ensures (fun q => q.isPublish = false)
      (fun _ _ => True) fun _ => True := by
    refine ensures_podDetails (fun c hc => ?_) namespaceName name
    cases c with
    | publish ing => cases hc
    | _ => rfl
  have hanswer : ∀ q : Ask, q.isPublish = false → ∀ h' : Host Site,
      h'.around.server = h.around.server →
      True ∧ ((Host.answers Site.surroundings q).run h').value.2.around.server
        = h.around.server :=
    fun q hq h' hh' => ⟨trivial, (Host.server_answers hq).trans hh'⟩
  exact (hquiet.run (I := fun h' : Host Site => h'.around.server = h.around.server) hanswer rfl).2

theorem server_identify (now : Nat) (c : Controller) :
    (c.identify now).value.site.server = c.site.server := by
  have hdetails : ∀ (name space : String) (leadership : Leadership),
      (((podDetails space name).run (Host.answers Site.surroundings)).run
        { around := c.site, leadership }).value.2.around.server = c.site.server :=
    fun name space leadership => server_podDetails space name { around := c.site, leadership }
  unfold identify
  rw [Reported.value_bind]
  split
  next found h hfound =>
    have hserver : h.around.server = c.site.server :=
      (congrArg (fun x => x.2.around.server) hfound).symm.trans (hdetails _ _ _)
    cases found <;> exact hserver

/-- What may be under way asks for a write if its next request is one. -/
theorem any_asks_eq (pass : Option Pass) (position : Nat) :
    pass.any (·.asks Ask.isPublish position)
      = (pass.bind (·.request? position)).any Ask.isPublish := by
  cases pass <;> rfl

/-- In a turn in which no write is asked for the server notes none. -/
theorem Steps.writes {task : Task} (h : Steps now c task c')
    (hquiet : c.publishes now task = false) : c'.site.server.writes = c.site.server.writes := by
  cases h with
  | reflects hfound => rw [server_of_reflectKind hfound]
  | configures => rfl
  | keeps hstatus hdue =>
      -- The run is due, so its next request is that of its pass.
      refine congrArg Api.Server.writes (Host.server_step ?_)
      simp only [publishes, request?, hstatus, if_pos hdue] at hquiet
      rw [any_asks_eq]
      exact hquiet
  | elects hstatus hstep => exact hstep.writes
  | givesUp hstage hclient => rfl
  | starts hstage => rfl
  | serves hstage hnext => rfl
  | identifies hstage => rw [server_identify]
  | shutsDown hstage hcause => rfl
  | withdraws hstage hstatus hunder =>
      refine congrArg Api.Server.writes (Host.server_stepWithdrawal ?_)
      simp only [publishes, request?, hstatus, hstage] at hquiet
      rw [any_asks_eq]
      exact hquiet
  | withdrawn hstage hended => rfl
  | cancels hstage hended => rfl
  | finishes hstage hended => rfl

end Steps

end Controller

end IngressController
