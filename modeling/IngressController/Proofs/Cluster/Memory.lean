import IngressController.Cluster.Memory

/-!
# `IngressController.Proofs.Cluster.Memory`: what a call reads and what it changes

A call to a cluster in memory is recorded, whatever becomes of it. Beyond that only writing a status
changes anything, and only the copy of the Ingress that is written.

* `answer_eq_ok_iff`, with `answer_fetchCall_eq_ok_iff` and its companions for single calls: when a
  call has an answer, and which.
* `answer_publish_of_accepts`: what writing a status does if it succeeds.
* `Memory.Keyed`: every Ingress is stored under its own key. It holds of the empty cluster, and
  putting, deleting and every call keep it.
* `Memory.premises`: what all other calls are answered from. No call changes it.
-/

set_option autoImplicit false

namespace IngressController.Cluster

open Object

/-- Whether a call is about an Ingress. -/
def Call.isAboutIngress : Call → Bool
  | getIngress .. => true
  | publish _ => true
  | _ => false

namespace Memory

variable {m m' : Memory}

/-! ### Single calls -/

/-- The copy that the cluster has of a watched Ingress. -/
def copy? (m : Memory) (ing : Ingress) : Option Ingress :=
  m.ingresses.get? ing.metadata.key

/-- A cluster after a call that only reads. -/
def record (m : Memory) (c : Call) : Memory :=
  { m with calls := m.calls ++ [c.text] }

/-- The call that reads an Ingress again. -/
def fetchCall (ing : Ingress) : Call :=
  .getIngress ing.metadata.namespaceText ing.metadata.nameText

/-- A call that fails is recorded. -/
theorem answer_of_fails {c : Call} (h : m.fails c = true) :
    m.answer c = (.error (.noAnswer (c.text ++ " failed")), m.record c) :=
  if_pos h

/-- No call fails if none is to fail. -/
theorem not_fails_of_succeeds (h : m.failing = []) (c : Call) : m.fails c = false := by
  rw [fails, h]
  rfl

/-- A call that does not fail as such is recorded and served. -/
theorem answer_of_not_fails {c : Call} (h : m.fails c = false) :
    m.answer c = (m.record c).serve c :=
  if_neg (by show ¬ m.fails c = true; rw [h]; decide)

/-- To read an Ingress again changes nothing. -/
theorem answer_fetchCall_snd (m : Memory) (ing : Ingress) :
    (m.answer (fetchCall ing)).2 = m.record (fetchCall ing) := by
  cases hfails : m.fails (fetchCall ing) with
  | true => rw [answer_of_fails hfails]
  | false => rw [answer_of_not_fails hfails]; rfl

/-- An Ingress can be read again. -/
def Reads (m : Memory) (ing : Ingress) : Prop :=
  m.fails (fetchCall ing) = false ∧ (m.copy? ing).isSome = true

/-- The status of an Ingress can be written. -/
def Accepts (m : Memory) (ing : Ingress) : Prop :=
  m.fails (.publish ing) = false

/-- A call has an answer if it does not fail as such and is served with it. -/
theorem answer_eq_ok_iff {c : Call} {a : c.Answer} :
    (m.answer c).1 = .ok a ↔ m.fails c = false ∧ ((m.record c).serve c).1 = .ok a := by
  cases hfails : m.fails c with
  | true =>
      rw [answer_of_fails hfails]
      simp
  | false =>
      rw [answer_of_not_fails hfails]
      simp

/-- What is found is what is there. -/
theorem found_eq_ok_iff {α : Type} {what key : String} {o : Option α} {a : α} :
    found what key o = .ok a ↔ o = some a := by
  cases o <;> simp [found]

/-- An Ingress that is read again is the copy of the cluster. -/
theorem answer_fetchCall_eq_ok_iff (m : Memory) (ing latest : Ingress) :
    (m.answer (fetchCall ing)).1 = .ok latest
      ↔ m.fails (fetchCall ing) = false ∧ m.copy? ing = some latest :=
  answer_eq_ok_iff.trans (and_congr_right fun _ => found_eq_ok_iff)

/-- A node that is read is the one that the cluster has under the name. -/
theorem answer_getNode_eq_ok_iff {name : String} {node : Node} :
    (m.answer (.getNode name)).1 = .ok node
      ↔ m.fails (.getNode name) = false ∧ m.nodes.get? name = some node :=
  answer_eq_ok_iff.trans (and_congr_right fun _ => found_eq_ok_iff)

/-- A Service that is read is the one that the cluster has under the key. -/
theorem answer_getService_eq_ok_iff {namespaceName name : String} {service : Service} :
    (m.answer (.getService namespaceName name)).1 = .ok service
      ↔ m.fails (.getService namespaceName name) = false
        ∧ m.services.get? (namespaceName ++ "/" ++ name) = some service :=
  answer_eq_ok_iff.trans (and_congr_right fun _ => found_eq_ok_iff)

/-- An Ingress cannot be read again if the call fails or there is none. -/
theorem not_reads_of_error {ing : Ingress} {failure : Failure}
    (h : (m.answer (fetchCall ing)).1 = .error failure) : ¬ m.Reads ing := by
  rintro ⟨hfails, hcopy⟩
  obtain ⟨latest, hlatest⟩ := Option.isSome_iff_exists.mp hcopy
  rw [(answer_fetchCall_eq_ok_iff m ing latest).mpr ⟨hfails, hlatest⟩] at h
  cases h

/-- A status that is accepted is stored with its Ingress. -/
theorem answer_publish_of_accepts {ing : Ingress} (h : m.Accepts ing) :
    m.answer (.publish ing) = (.ok (), { m.record (.publish ing) with
      ingresses := m.ingresses.insert ing.metadata.key ing
      writes := m.writes ++ [ing] }) :=
  answer_of_not_fails h

/-- A status that is not accepted changes nothing. -/
theorem answer_publish_of_not_accepts {ing : Ingress} (h : ¬ m.Accepts ing) :
    m.answer (.publish ing) = (.error (.noAnswer ((Call.publish ing).text ++ " failed")),
      m.record (.publish ing)) :=
  answer_of_fails (by rwa [Accepts, Bool.not_eq_false] at h)

/-- Whether a status is accepted depends on the key of the Ingress alone. -/
theorem accepts_congr {ing ing' : Ingress} (h : ing.metadata.key = ing'.metadata.key) :
    m.Accepts ing ↔ m.Accepts ing' := by
  rw [Accepts, Accepts, fails, fails, Call.text, Call.text, Call.subject, Call.subject, h]
  rfl

/-! ### Keys -/

/-- Every Ingress is stored under its own key. -/
def Keyed (m : Memory) : Prop :=
  ∀ key ing, m.ingresses.get? key = some ing → ing.metadata.key = key

/-- The empty cluster stores nothing under a wrong key. -/
theorem keyed_empty : ({} : Memory).Keyed := by
  intro key ing h
  cases h

/-- An Ingress that is put into the cluster is stored under its key. -/
theorem Keyed.insert {ingresses : TextMap Ingress}
    (h : ∀ key ing, ingresses.get? key = some ing → ing.metadata.key = key) (new : Ingress) :
    ∀ key ing, (ingresses.insert new.metadata.key new).get? key = some ing →
      ing.metadata.key = key := by
  intro key ing hget
  rw [TextMap.get?_insert] at hget
  split at hget
  · next hkey =>
      cases hget
      exact hkey
  · exact h key ing hget

/-- Putting an object into the cluster keeps the keys right. -/
theorem Keyed.put (h : m.Keyed) (o : AnyObject) : (m.put o).Keyed := by
  cases o <;> first | exact h | exact Keyed.insert h _

/-- Deleting an object keeps the keys right. -/
theorem Keyed.delete (h : m.Keyed) (kind : Kind) (key : String) : (m.delete kind key).Keyed := by
  cases kind
  case ingress =>
    intro key' ing hget
    rw [show (m.delete .ingress key).ingresses = m.ingresses.erase key from rfl,
      TextMap.get?_erase] at hget
    split at hget
    · cases hget
    · exact h key' ing hget
  all_goals exact h

/-- Every call keeps the keys right. -/
theorem Keyed.answer (h : m.Keyed) (c : Call) : (m.answer c).2.Keyed := by
  cases hfails : m.fails c with
  | true => rw [answer_of_fails hfails]; exact h
  | false =>
      rw [answer_of_not_fails hfails]
      cases c
      case publish ing => exact Keyed.insert h ing
      all_goals exact h

/-! ### What stays as it is -/

/-- What calls are answered from that are not about Ingresses. -/
def premises (m : Memory) :
    List Pod × TextMap Node × TextMap Service × List String × Option Int :=
  (m.pods, m.nodes, m.services, m.failing, m.podError)

/-- No call changes what other calls are answered from, Ingresses apart. -/
theorem premises_answer (m : Memory) (c : Call) : (m.answer c).2.premises = m.premises := by
  cases hfails : m.fails c with
  | true => rw [answer_of_fails hfails]; rfl
  | false =>
      rw [answer_of_not_fails hfails]
      cases c <;> rfl

/-- The same calls fail as long as that stays as it is. -/
theorem fails_congr (h : m'.premises = m.premises) (c : Call) : m'.fails c = m.fails c := by
  have hfailing : m'.failing = m.failing := congrArg (·.2.2.2.1) h
  rw [fails, fails, hfailing]

/-- Calls that are not about Ingresses are answered the same as long as that stays as it is. -/
theorem answer_congr (h : m'.premises = m.premises) {c : Call} (hc : c.isAboutIngress = false) :
    (m'.answer c).1 = (m.answer c).1 := by
  have hpods : m'.pods = m.pods := congrArg (·.1) h
  have hnodes : m'.nodes = m.nodes := congrArg (·.2.1) h
  have hservices : m'.services = m.services := congrArg (·.2.2.1) h
  have hpodError : m'.podError = m.podError := congrArg (·.2.2.2.2) h
  have hsame := fails_congr h c
  -- The same calls fail, and each of the others looks at one of these four fields.
  cases hfails : m.fails c with
  | true => rw [answer_of_fails hfails, answer_of_fails (hsame.trans hfails)]
  | false =>
      rw [answer_of_not_fails hfails, answer_of_not_fails (hsame.trans hfails)]
      cases c with
      | getPod namespaceName name => simp only [serve, record, hpods, hpodError]
      | listPods namespaceName selector => simp only [serve, record, hpods]
      | getNode name => simp only [serve, record, hnodes]
      | getService namespaceName name => simp only [serve, record, hservices]
      | getIngress namespaceName name => cases hc
      | publish ing => cases hc

/-- What calls about Ingresses change, beside the record of the calls: the copies and the writes. -/
def stored (m : Memory) : TextMap Ingress × List Ingress :=
  (m.ingresses, m.writes)

/-- Calls that are not about Ingresses store nothing. -/
theorem stored_answer (m : Memory) {c : Call} (hc : c.isAboutIngress = false) :
    (m.answer c).2.stored = m.stored := by
  cases hfails : m.fails c with
  | true => rw [answer_of_fails hfails]; rfl
  | false =>
      rw [answer_of_not_fails hfails]
      cases c with
      | getPod namespaceName name => rfl
      | listPods namespaceName selector => rfl
      | getNode name => rfl
      | getService namespaceName name => rfl
      | getIngress namespaceName name => cases hc
      | publish ing => cases hc

end Memory

end IngressController.Cluster
