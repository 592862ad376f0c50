import IngressController.Proofs.Api.Location
import IngressController.Proofs.Object.Ingress
import IngressController.Proofs.Program
import IngressController.Status.Update

/-!
# `IngressController.Proofs.Api.Publication`: a write of a status loses no other change

An Ingress is read, its copy gets other entries, and the copy is written back. In between others may
change the Ingress on the server in any way, so that the copy is stale by then. The write is a merge
patch of the status, and of the copy nothing but the list of entries gets into it. So the server
ends up with what the others wrote and with exactly these entries, an empty list included. The
version is the server's own, it gives a new one at each change.

* `object?_store` and `setAt_withVersion`: what storing an object changes.
* `Republished` and `republished`: what the patch makes of the object that is there by then.
* `value_call_getIngress` and `publish_cases`: all that the two calls can do.
* `afterWrite_cases`: all that a write can do, whatever the others do in between.
* `LosesNothing` and `losesNothing`: no change of another client is lost, a deletion included, and
  the entries are in place afterwards unless a request fails.
-/

set_option autoImplicit false

namespace IngressController.Api

open Object Json

namespace Server

/-! ### What the server holds -/

/-- The object of a kind with a key. -/
def object? (s : Server) (plural key : String) : Option Json :=
  (s.ofKind plural).get? key

/-- Storing an object changes that object only. -/
theorem object?_store (s : Server) (plural key : String) (object : Json) (plural' key' : String) :
    (s.store plural key object).object? plural' key'
      = if plural = plural' ∧ key = key' then some (withVersion (s.version + 1) object)
        else s.object? plural' key' := by
  have hkind : (s.store plural key object).ofKind plural'
      = if plural = plural' then (s.ofKind plural).insert key (withVersion (s.version + 1) object)
        else s.ofKind plural' := by
    rw [ofKind, store, TextMap.get?_insert]
    split <;> rfl
  rw [object?, hkind]
  by_cases hplural : plural = plural'
  · subst hplural
    rw [if_pos rfl, TextMap.get?_insert]
    simp [object?]
  · simp [object?, hplural]

/-- Of the object itself a new version changes the version only. -/
theorem setAt_withVersion (version : Nat) (object : Json) :
    SetAt ["metadata", "resourceVersion"] (.str (Text.decimal version)) object
      (withVersion version object) := by
  have hmembers : ∀ name, given? ((given? object "metadata").getD .null) name
      = given? (.obj (((object.member? "metadata").bind Json.obj?).getD [])) name := by
    intro name
    rw [member?_eq_given?]
    cases given? object "metadata" with
    | none => rfl
    | some value => cases value <;> rfl
  have hmetadata := (setAt_setMember "resourceVersion" (.str (Text.decimal version))
    (((object.member? "metadata").bind Json.obj?).getD [])).congr hmembers
  refine SetAt.cons ?_ hmetadata fun other hne => ?_
  · rw [withVersion, given?_obj, lookup_setMember, if_pos rfl]
  · rw [withVersion, given?_obj, lookup_setMember, if_neg hne, given?_eq_lookup]

/-! ### Other entries -/

/-- Where the entries of a status are. -/
def entriesPath : List String := ["status", "loadBalancer", "ingress"]

/-- Where the version is that the server gives. -/
def versionPath : List String := ["metadata", "resourceVersion"]

/-- What a server keeps of an object when it is given other entries. -/
structure Republished (wanted : List Entry) (current kept : Json) : Prop where
  /-- The entries are the given ones, in place of whatever was there. -/
  entries : kept.at? entriesPath = some (.arr (wanted.map Entry.toJson))
  /-- Every member but the status and the metadata is as it was. -/
  members : ∀ name, name ≠ "status" → name ≠ "metadata" →
    given? kept name = given? current name
  /-- Of the metadata only the version changes. -/
  metadata : ∀ name, name ≠ "resourceVersion" →
    kept.at? ["metadata", name] = current.at? ["metadata", name]
  /-- In all, nothing changes beside the entries and the version. -/
  others : ∀ path, Apart entriesPath path → Apart versionPath path →
    kept.at? path = current.at? path

/-- The patch of a status says nothing but the entries. -/
theorem patchStatus_publish (ing : Ingress) (wanted : List Entry) (current : Json) :
    patchStatus current (statusPatch (ing.publish wanted))
      = current.mergePatch (nest (.arr (wanted.map Entry.toJson)) entriesPath) := by
  rfl

theorem republished (ing : Ingress) (wanted : List Entry) (current : Json) (version : Nat) :
    Republished wanted current
      (withVersion version (patchStatus current (statusPatch (ing.publish wanted)))) := by
  rw [patchStatus_publish]
  have hentries := setAt_mergePatch entriesPath (wanted.map Entry.toJson) current
  have hversion := setAt_withVersion version
    (current.mergePatch (nest (.arr (wanted.map Entry.toJson)) entriesPath))
  have hothers : ∀ path, Apart entriesPath path → Apart versionPath path →
      (withVersion version (current.mergePatch (nest (.arr (wanted.map Entry.toJson))
        entriesPath))).at? path = current.at? path := fun path hpath hpath' =>
    (hversion.elsewhere path hpath').trans (hentries.elsewhere path hpath)
  refine ⟨?_, fun name hstatus hmetadata => ?_, fun name hname => ?_, hothers⟩
  · rw [hversion.elsewhere entriesPath (apart_of_ne (by decide) _ _)]
    exact hentries.there
  · rw [← at?_singleton, ← at?_singleton]
    exact hothers [name] (apart_of_ne (Ne.symm hstatus) _ _) (apart_of_ne (Ne.symm hmetadata) _ _)
  · exact hothers ["metadata", name] (apart_of_ne (by decide) _ _)
      (apart_cons_iff.mpr (apart_of_ne (Ne.symm hname) _ _))

/-! ### Calls about an Ingress -/

section Calls

variable (s : Server)

/-- A reply that reports an error has its code. -/
theorem readReply_errorResponse {α : Type} (read : Json → Option α) {code : Nat}
    (hcode : code = 404 ∨ code = 500) :
    readReply read (.ok (errorResponse code)) = .error (.refused code) := by
  rcases hcode with rfl | rfl <;> rfl

/-- Any other reply is read. -/
theorem readReply_body {α : Type} (read : Json → Option α) (body : Json) :
    readReply read (.ok { status := 200, body }) = (read body).elim (.error .unreadable) .ok := by
  have hok : Response.isError { status := 200, body } = false := rfl
  simp only [readReply, hok, Bool.false_eq_true, if_false]
  cases read body <;> rfl

/-- The response to the request for an object. Nothing changes. -/
theorem respond_get {location : Location} {plural key : String}
    (htarget : target? location.path = some (.object plural key)) :
    s.respond { method := .get, location } =
      (if s.refuses "GET" plural (some key) then errorResponse 500
        else (s.object? plural key).elim (errorResponse 404) ({ status := 200, body := · }),
        s) := by
  unfold respond object?
  rw [htarget]
  by_cases hrefused : s.refuses Method.get.text plural (some key) = true
  · rw [if_pos (show s.refuses "GET" plural (some key) = true from hrefused)]
    exact if_pos hrefused
  · rw [if_neg (show ¬s.refuses "GET" plural (some key) = true from hrefused)]
    refine (if_neg hrefused).trans ?_
    cases (s.ofKind plural).get? key <;> rfl

/-- An Ingress that is read is the one that is kept under the name. Reading changes nothing. -/
theorem value_call_getIngress {namespaceName name : String} (hspace : IsName namespaceName)
    (hname : IsName name) (hnamed : name ≠ "") :
    ((call (.getIngress namespaceName name)).run s).value = (
      if s.refuses "GET" "ingresses" (some (namespaceName ++ "/" ++ name)) then
        .error (.refused 500)
      else (s.object? "ingresses" (namespaceName ++ "/" ++ name)).elim (.error (.refused 404))
        fun object => (Ingress.ofJson? object).elim (.error .unreadable) .ok, s) := by
  obtain ⟨location, hlocation, htarget⟩ := exists_location_ingress hspace hname hnamed
  have hcall : ((call (.getIngress namespaceName name)).run s).value
      = (readReply Ingress.ofJson? (.ok (s.respond { method := .get, location }).1),
          (s.respond { method := .get, location }).2) := by
    rw [call, perform, getObject, hlocation]
    rfl
  rw [hcall, s.respond_get htarget]
  cases s.refuses "GET" "ingresses" (some (namespaceName ++ "/" ++ name)) with
  | true => rfl
  | false =>
      cases s.object? "ingresses" (namespaceName ++ "/" ++ name) with
      | none => rfl
      | some object => exact congrArg (·, s) (readReply_body Ingress.ofJson? object)

/-- The response to the patch of a status that is there. -/
theorem patchResponse_of_some {key : String} {current : Json} (patch : Json)
    (hcurrent : s.object? "ingresses" key = some current) :
    ∃ s', s.patchResponse key patch =
        ({ status := 200, body := withVersion (s.version + 1) (patchStatus current patch) }, s') ∧
      ∀ plural key', s'.object? plural key' = if "ingresses" = plural ∧ key = key' then
          some (withVersion (s.version + 1) (patchStatus current patch))
        else s.object? plural key' := by
  have hstored := s.object?_store "ingresses" key (patchStatus current patch)
  have hkept := hstored "ingresses" key
  rw [if_pos ⟨rfl, rfl⟩] at hkept
  unfold patchResponse
  rw [show (s.ofKind "ingresses").get? key = some current from hcurrent]
  simp only
  rw [show ((s.store "ingresses" key (patchStatus current patch)).ofKind "ingresses").get? key
    = some _ from hkept]
  exact ⟨_, rfl, hstored⟩

/-- There is no such response if it is not. -/
theorem patchResponse_of_none {key : String} (patch : Json)
    (hnone : s.object? "ingresses" key = none) :
    s.patchResponse key patch = (errorResponse 404, s) := by
  unfold patchResponse
  rw [show (s.ofKind "ingresses").get? key = none from hnone]

/-- The call that writes a status patches the status that is kept under the name of the Ingress. -/
theorem value_call_publish {ing : Ingress} (wanted : List Entry)
    (hspace : IsName ing.metadata.namespaceText) (hname : IsName ing.metadata.nameText)
    (hnamed : ing.metadata.nameText ≠ "") :
    ∃ reply : Response × Server,
      reply = (if s.refuses "PATCH" "ingresses" (some ing.metadata.key) then (errorResponse 500, s)
        else s.patchResponse ing.metadata.key (statusPatch (ing.publish wanted))) ∧
      ((call (.publish (ing.publish wanted))).run s).value =
        ((readReply Ingress.ofJson? (.ok reply.1)).map fun _ => (), reply.2) := by
  obtain ⟨location, hlocation, htarget⟩ := exists_location_status hspace hname hnamed
  have hplace : statusLocation (ing.publish wanted) = .ok location := hlocation
  refine ⟨s.respond { method := .patch, location, body := some (statusPatch (ing.publish wanted)) },
    ?_, ?_⟩
  · unfold respond
    rw [htarget]
    rfl
  · rw [call, perform, publish, hplace]
    rfl

/-- A write of a status either fails and changes nothing, or it gives the Ingress the entries. The
writer is told so if what is stored then can be read. -/
theorem publish_cases {ing : Ingress} (wanted : List Entry)
    (hspace : IsName ing.metadata.namespaceText) (hname : IsName ing.metadata.nameText)
    (hnamed : ing.metadata.nameText ≠ "") {outcome : Except Cluster.Failure Unit} {s' : Server}
    (h : ((call (.publish (ing.publish wanted))).run s).value = (outcome, s')) :
    ((s.refuses "PATCH" "ingresses" (some ing.metadata.key) = true ∨
        s.object? "ingresses" ing.metadata.key = none) ∧ s' = s ∧ outcome ≠ .ok ()) ∨
      ∃ current kept, s.object? "ingresses" ing.metadata.key = some current ∧
        kept = withVersion (s.version + 1)
          (patchStatus current (statusPatch (ing.publish wanted))) ∧
        (∀ plural key, s'.object? plural key
          = if "ingresses" = plural ∧ ing.metadata.key = key then some kept
            else s.object? plural key) ∧
        (outcome = .ok () ↔ (Ingress.ofJson? kept).isSome = true) := by
  obtain ⟨reply, rfl, hcall⟩ := s.value_call_publish wanted hspace hname hnamed
  rw [hcall] at h
  cases hrefused : s.refuses "PATCH" "ingresses" (some ing.metadata.key) with
  | true =>
      rw [hrefused, if_pos rfl, readReply_errorResponse _ (.inr rfl)] at h
      cases h
      exact .inl ⟨.inl rfl, rfl, fun heq => by cases heq⟩
  | false =>
      rw [hrefused, if_neg Bool.false_ne_true] at h
      cases hcurrent : s.object? "ingresses" ing.metadata.key with
      | none =>
          rw [s.patchResponse_of_none _ hcurrent, readReply_errorResponse _ (.inl rfl)] at h
          cases h
          exact .inl ⟨.inr rfl, rfl, fun heq => by cases heq⟩
      | some current =>
          obtain ⟨s'', hpatch, hobjects⟩ :=
            s.patchResponse_of_some (statusPatch (ing.publish wanted)) hcurrent
          rw [hpatch, readReply_body] at h
          cases h
          refine .inr ⟨current, _, rfl, rfl, hobjects, ?_⟩
          cases Ingress.ofJson? (withVersion (s.version + 1)
              (patchStatus current (statusPatch (ing.publish wanted)))) with
          | none => exact iff_of_false (fun heq => by cases heq) Bool.false_ne_true
          | some ing' => exact iff_of_true rfl rfl

end Calls

/-! ### A write among other clients -/

/-- The server answers the controller, and after each read other clients change it in some way. A
write of a status makes no other requests. -/
def amid (others : Server → Server) : Program.Answers Status.Ask.Answer Server
  | .call (.getIngress namespaceName name) => do
    let outcome ← call (.getIngress namespaceName name)
    modify others
    return outcome
  | .call c => call c
  | .ingresses => pure []
  | .leading => pure false
  | .shuttingDown => pure false
  | .cancelled _ => pure false

variable (s : Server) (others : Server → Server) (ing : Ingress) (wanted : List Entry)

/-- The outcome of a write, and the server after it. -/
def afterWrite : Status.UpdateOutcome × Server :=
  (((Status.write ing wanted).run (amid others)).run s).value

/-- What was read decides whether there is a write, and the others come in between. -/
theorem afterWrite_eq :
    s.afterWrite others ing wanted =
      match ((call (.getIngress ing.metadata.namespaceText ing.metadata.nameText)).run s).value with
      | (.error _, s) => (.failed, others s)
      | (.ok latest, s) =>
        let written := ((call (.publish (latest.publish wanted))).run (others s)).value
        (match written.1 with
          | .ok () => .updated
          | .error _ => .failed, written.2) := by
  have hread : ∀ namespaceName name,
      (((Status.call (.getIngress namespaceName name)).run (amid others)).run s).value
        = (((call (.getIngress namespaceName name)).run s).value.1,
            others ((call (.getIngress namespaceName name)).run s).value.2) := fun _ _ => rfl
  have hwritten : ∀ ing s, (((Status.call (.publish ing)).run (amid others)).run s).value
      = ((call (.publish ing)).run s).value := fun _ _ => rfl
  rw [afterWrite, Status.write, Program.value_run_bind, hread]
  obtain ⟨outcome, s'⟩ :=
    ((call (.getIngress ing.metadata.namespaceText ing.metadata.nameText)).run s).value
  cases outcome with
  | error failure => rfl
  | ok latest =>
      simp only
      rw [Program.value_run_bind, Program.log, Program.value_run_note, Program.value_run_done,
        Program.value_run_bind, hwritten]
      obtain ⟨outcome, s''⟩ := ((call (.publish (latest.publish wanted))).run (others s')).value
      cases outcome <;> rfl

/-- The names of an Ingress are names that the cluster accepts, and under them the server keeps an
object that bears them. -/
structure Keeps : Prop where
  inNamespace : IsName ing.metadata.namespaceText
  named : IsName ing.metadata.nameText
  nonempty : ing.metadata.nameText ≠ ""
  own : ∀ object latest, s.object? "ingresses" ing.metadata.key = some object →
    Ingress.ofJson? object = some latest →
      latest.metadata.namespaceText = ing.metadata.namespaceText ∧
        latest.metadata.nameText = ing.metadata.nameText

/-- What becomes of an object of the server when the status of an Ingress is written and others
change the server in between. -/
structure LosesNothing : Prop where
  /-- Every other object is as the others left it. -/
  beside : ∀ plural key, ¬ ("ingresses" = plural ∧ ing.metadata.key = key) →
    (s.afterWrite others ing wanted).2.object? plural key = (others s).object? plural key
  /-- An Ingress that they deleted stays deleted. -/
  deleted : (others s).object? "ingresses" ing.metadata.key = none →
    (s.afterWrite others ing wanted).2.object? "ingresses" ing.metadata.key = none
  /-- Otherwise it is as they left it, or as they left it but for the entries and the version. -/
  kept : ∀ current, (others s).object? "ingresses" ing.metadata.key = some current →
    ∃ kept, (s.afterWrite others ing wanted).2.object? "ingresses" ing.metadata.key = some kept ∧
      (kept = current ∨ Republished wanted current kept)
  /-- It has the entries if it was there to be read, and neither request is refused. -/
  written : ∀ stale latest current, s.object? "ingresses" ing.metadata.key = some stale →
    Ingress.ofJson? stale = some latest →
    s.refuses "GET" "ingresses" (some ing.metadata.key) = false →
    (others s).object? "ingresses" ing.metadata.key = some current →
    (others s).refuses "PATCH" "ingresses" (some ing.metadata.key) = false →
      ∃ kept, (s.afterWrite others ing wanted).2.object? "ingresses" ing.metadata.key = some kept ∧
        Republished wanted current kept ∧
        -- What can be read then is what the others wrote with exactly these entries.
        ∀ fresh, Ingress.ofJson? current = some fresh → (∀ e ∈ wanted, e.Fits) →
          (s.afterWrite others ing wanted).1 = .updated ∧
            ∃ version, Ingress.ofJson? kept = some { fresh.publish wanted with
              metadata := { fresh.metadata with resourceVersion := some version } }

variable {s ing}

/-- A write changes nothing, because the Ingress is not there to be read or to be written or a
request is refused, or it gives the Ingress that the others left behind the entries. -/
theorem afterWrite_cases (h : s.Keeps ing) :
    (s.afterWrite others ing wanted = (.failed, others s) ∧
      (s.refuses "GET" "ingresses" (some ing.metadata.key) = true ∨
        (s.object? "ingresses" ing.metadata.key).bind Ingress.ofJson? = none ∨
        (others s).refuses "PATCH" "ingresses" (some ing.metadata.key) = true ∨
        (others s).object? "ingresses" ing.metadata.key = none)) ∨
    ∃ current kept version latest, (others s).object? "ingresses" ing.metadata.key = some current ∧
      kept = withVersion version
        (patchStatus current (statusPatch (Ingress.publish latest wanted))) ∧
      (∀ plural key, (s.afterWrite others ing wanted).2.object? plural key
        = if "ingresses" = plural ∧ ing.metadata.key = key then some kept
          else (others s).object? plural key) ∧
      ((s.afterWrite others ing wanted).1 = .updated ↔ (Ingress.ofJson? kept).isSome = true) := by
  have hread := s.value_call_getIngress h.inNamespace h.named h.nonempty
  have hkey : ing.metadata.namespaceText ++ "/" ++ ing.metadata.nameText = ing.metadata.key := rfl
  rw [hkey] at hread
  rw [afterWrite_eq, hread]
  cases hget : s.refuses "GET" "ingresses" (some ing.metadata.key) with
  | true => exact .inl ⟨rfl, .inl rfl⟩
  | false =>
      cases hobject : s.object? "ingresses" ing.metadata.key with
      | none => exact .inl ⟨rfl, .inr (.inl rfl)⟩
      | some object =>
          cases hlatest : Ingress.ofJson? object with
          | none => exact .inl ⟨by simp [hlatest], .inr (.inl hlatest)⟩
          | some latest =>
              obtain ⟨hspace, hname⟩ := h.own object latest hobject hlatest
              have hkey : latest.metadata.key = ing.metadata.key := by
                rw [Metadata.key, Metadata.key, hspace, hname]
              obtain ⟨⟨outcome, s'⟩, hwritten⟩ : ∃ written,
                  ((call (.publish (latest.publish wanted))).run (others s)).value = written :=
                ⟨_, rfl⟩
              have hcases := (others s).publish_cases wanted (hspace ▸ h.inNamespace)
                (hname ▸ h.named) (hname ▸ h.nonempty) hwritten
              rw [hkey] at hcases
              simp only [Bool.false_eq_true, if_false, Option.elim_some, hlatest, hwritten]
              rcases hcases with
                ⟨hwhy, rfl, hfailed⟩ | ⟨current, kept, hcurrent, hkept, hafter, hok⟩
              · cases outcome with
                | ok answer => exact absurd rfl hfailed
                | error failure => exact .inl ⟨rfl, .inr (.inr hwhy)⟩
              · refine .inr ⟨current, kept, _, latest, hcurrent, hkept, hafter, ?_⟩
                rw [← hok]
                cases outcome with
                | ok answer => exact iff_of_true rfl rfl
                | error failure =>
                    exact iff_of_false (fun heq => by cases heq) fun heq => by cases heq

variable (s ing)

/-- However others change the server between the reading and the writing of an Ingress, the write of
its status loses nothing of it. -/
theorem losesNothing (h : s.Keeps ing) : LosesNothing s others ing wanted := by
  rcases afterWrite_cases others wanted h with
    ⟨hafter, hwhy⟩ | ⟨current, kept, version, latest, hcurrent, rfl, hafter, houtcome⟩
  · refine ⟨fun plural key _ => by rw [hafter], fun hnone => by rw [hafter, hnone],
      fun current hcurrent => ⟨current, by rw [hafter, hcurrent], .inl rfl⟩, ?_⟩
    intro stale latest current hstale hlatest hget hcurrent hpatch
    rw [hget, hpatch, hstale, hcurrent, Option.bind_some, hlatest] at hwhy
    rcases hwhy with h | h | h | h <;> cases h
  · have hkept := hafter "ingresses" ing.metadata.key
    rw [if_pos ⟨rfl, rfl⟩] at hkept
    have hrepublished := republished latest wanted current version
    refine ⟨fun plural key hne => by rw [hafter, if_neg hne], fun hnone => ?_, ?_, ?_⟩
    · rw [hnone] at hcurrent
      cases hcurrent
    · intro current' hcurrent'
      obtain rfl : current = current' := Option.some.inj (hcurrent.symm.trans hcurrent')
      exact ⟨_, hkept, .inr hrepublished⟩
    · intro stale latest' current' _ _ _ hcurrent' _
      obtain rfl : current = current' := Option.some.inj (hcurrent.symm.trans hcurrent')
      refine ⟨_, hkept, hrepublished, fun fresh hfresh hfits => ?_⟩
      have hread := Ingress.ofJson?_of_version (Ingress.ofJson?_of_entries hfresh
        (setAt_mergePatch entriesPath (wanted.map Entry.toJson) current) hfits)
        (setAt_withVersion version _)
      exact ⟨houtcome.mpr (by rw [patchStatus_publish, hread]; rfl), _, hread⟩

/-! ### An Ingress that is changed in between -/

/-- An Ingress of a team, with an address in its status. -/
def teamObject (team : String) : Json :=
  .obj [("metadata", .obj [("namespace", .str "shop"), ("name", .str "web"),
      ("annotations", .obj [("team", .str team)])]),
    ("spec", .obj [("ingressClassName", .str "internal")]),
    ("status", .obj [("loadBalancer", .obj [("ingress", .arr [.obj [("ip", .str "10.0.0.1")]])])])]

def teamServer : Server :=
  ({} : Server).put .ingress (teamObject "red")

def teamIngress : Ingress :=
  { metadata := { namespaceName := some "shop", name := some "web" } }

/-- Its addresses are taken away while somebody hands it over to another team. Both come through. -/
theorem handedOver_of_withdrawn :
    ∃ kept, (teamServer.afterWrite (·.put .ingress (teamObject "blue")) teamIngress []).2.object?
        "ingresses" "shop/web" = some kept ∧
      kept.at? ["metadata", "annotations", "team"] = some (.str "blue") ∧
      kept.at? ["spec", "ingressClassName"] = some (.str "internal") ∧
      kept.at? entriesPath = some (.arr []) := by
  have hkeeps : teamServer.Keeps teamIngress := by
    refine ⟨by decide, by decide, by decide, ?_⟩
    intro object latest hobject hlatest
    have hstored : some (withVersion 1 (teamObject "red")) = some object := hobject
    cases hstored
    cases hlatest
    exact ⟨rfl, rfl⟩
  obtain ⟨kept, hkept, hrepublished, -⟩ :=
    (losesNothing teamServer (·.put .ingress (teamObject "blue")) teamIngress [] hkeeps).written
      _ _ _ rfl rfl rfl rfl rfl
  exact ⟨kept, hkept, hrepublished.others _ (by decide) (by decide),
    hrepublished.others _ (by decide) (by decide), hrepublished.entries⟩

end Server

end IngressController.Api
