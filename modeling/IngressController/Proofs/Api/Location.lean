import IngressController.Api.Server
import IngressController.Proofs.Text.Fields

/-!
# `IngressController.Proofs.Api.Location`: requests reach the object that they name

Names stand in the path of a request as they are. A name that the cluster gives has no slash in it
and no mark that ends a path, so the path is cut into the parts that it was put together from, and
the server takes the request for one about the object with that name.

* `IsName`: a text that can be a name.
* `Location.parse_of_plain`: a plain path is read back.
* `exists_location_ingress` and `exists_location_status`: what the server takes the two places of
  an Ingress for.
-/

set_option autoImplicit false

namespace IngressController.Api

/-- All characters of a text can stand in a path. -/
def Plain (text : String) : Prop :=
  ∀ c ∈ text.toList, Location.isPathChar c = true

instance (text : String) : Decidable (Plain text) :=
  decidable_of_iff (text.toList.all Location.isPathChar = true) List.all_eq_true

theorem Plain.append {s t : String} (h : Plain s) (h' : Plain t) : Plain (s ++ t) := by
  intro c hc
  rw [String.toList_append] at hc
  exact (List.mem_append.mp hc).elim (h c) (h' c)

/-- A text that can be a name. The cluster accepts only names of this kind. -/
structure IsName (text : String) : Prop where
  /-- All of its characters can stand in a path. -/
  plain : Plain text
  /-- None is the slash between two parts of one. -/
  noSlash : '/' ∉ text.toList
  short : text.utf8ByteSize ≤ 253

instance (text : String) : Decidable (IsName text) :=
  decidable_of_iff (Plain text ∧ '/' ∉ text.toList ∧ text.utf8ByteSize ≤ 253)
    ⟨fun h => ⟨h.1, h.2.1, h.2.2⟩, fun h => ⟨h.plain, h.noSlash, h.short⟩⟩

/-- A plain path is read back, also with an empty list of parameters behind it. -/
theorem Location.parse_of_plain {path : String} (hplain : Plain path)
    (hshort : path.utf8ByteSize < maxSize) {tail : String} (htail : tail = "" ∨ tail = "?") :
    Location.parse (path ++ tail) = .ok { path } := by
  have hends : ∀ c ∈ path.toList, (!(c == '?' || c == '#')) = true := by
    intro c hc
    cases hend : c == '?' || c == '#' with
    | false => rfl
    | true =>
        rw [Bool.or_eq_true, beq_iff_eq, beq_iff_eq] at hend
        rcases hend with rfl | rfl <;> cases hplain _ hc
  have hpath :
      (path ++ tail).toList.takeWhile (fun c => !(c == '?' || c == '#')) = path.toList := by
    rw [String.toList_append, List.takeWhile_append_of_pos hends]
    rcases htail with rfl | rfl <;> simp
  have hrest :
      (path ++ tail).toList.dropWhile (fun c => !(c == '?' || c == '#')) = tail.toList := by
    rw [String.toList_append, List.dropWhile_append_of_pos hends]
    rcases htail with rfl | rfl <;> rfl
  have hsize : ¬ maxSize < (path ++ tail).utf8ByteSize := by
    rw [String.utf8ByteSize_append]
    have htail : tail.utf8ByteSize ≤ 1 := by rcases htail with rfl | rfl <;> decide
    omega
  have hall : path.toList.all isPathChar = true := List.all_eq_true.mpr hplain
  have hnone : Text.splitOn '&' "" = [""] := by decide
  unfold Location.parse
  simp only [hpath, hrest, if_neg hsize, hall]
  rcases htail with rfl | rfl <;> simp [hnone]

/-! ### The places of an Ingress -/

section Ingress

variable {namespaceName name : String}

/-- The path of an Ingress. -/
def ingressPath (namespaceName name : String) : String :=
  listPath networkingRoot namespaceName "ingresses" ++ "/" ++ name

theorem plain_ingressPath (hspace : IsName namespaceName) (hname : IsName name) :
    Plain (ingressPath namespaceName name) := by
  have hfront : Plain (networkingRoot ++ "/namespaces/") := by decide
  have hmiddle : Plain ("/" ++ "ingresses" ++ "/") := by decide
  have hpath := ((hfront.append hspace.plain).append hmiddle).append hname.plain
  simpa [ingressPath, listPath, String.append_assoc] using hpath

theorem utf8ByteSize_ingressPath (hspace : IsName namespaceName) (hname : IsName name) :
    (ingressPath namespaceName name).utf8ByteSize ≤ 600 := by
  have hliterals : networkingRoot.utf8ByteSize = 26 ∧ "/namespaces/".utf8ByteSize = 12 ∧
      "/".utf8ByteSize = 1 ∧ "ingresses".utf8ByteSize = 9 := by decide
  obtain ⟨hroot, hspaces, hslash, hplural⟩ := hliterals
  have hspaceSize := hspace.short
  have hnameSize := hname.short
  simp only [ingressPath, listPath, String.utf8ByteSize_append, hroot, hspaces, hslash, hplural]
  omega

/-- The parts that a path was put together from, none of which has a slash in it. -/
theorem splitOn_path {path : String} {parts : List String} (hpath : path = "/".intercalate parts)
    (hne : parts ≠ []) (hparts : ∀ part ∈ parts, '/' ∉ part.toList) :
    Text.splitOn '/' path = parts := by
  rw [hpath]
  exact Text.splitOn_intercalate hne hparts

/-- The server takes the place of an Ingress for one about the object with its key. -/
theorem exists_location_ingress (hspace : IsName namespaceName) (hname : IsName name)
    (hnamed : name ≠ "") :
    ∃ location, Location.ofObject (listPath networkingRoot namespaceName "ingresses") name
        = .ok location ∧
      Server.target? location.path
        = some (.object "ingresses" (namespaceName ++ "/" ++ name)) := by
  refine ⟨{ path := ingressPath namespaceName name }, ?_, ?_⟩
  · have hsize := utf8ByteSize_ingressPath hspace hname
    have hparse := Location.parse_of_plain (plain_ingressPath hspace hname)
      (Nat.lt_of_le_of_lt hsize (by decide)) (.inl rfl)
    rw [String.append_empty] at hparse
    rw [Location.ofObject, if_neg hnamed]
    exact hparse
  · have hsplit : Text.splitOn '/' (ingressPath namespaceName name) = ["", "apis",
        "networking.k8s.io", "v1", "namespaces", namespaceName, "ingresses", name] := by
      refine splitOn_path (String.toList_inj.mp ?_) (by simp) ?_
      · simp [ingressPath, listPath, networkingRoot]
      · simp [hspace.noSlash, hname.noSlash]
    rw [Server.target?, hsplit]
    rfl

/-- The server takes the place of its status for one about the status of that object. -/
theorem exists_location_status (hspace : IsName namespaceName) (hname : IsName name)
    (hnamed : name ≠ "") :
    ∃ location, Location.ofPart (listPath networkingRoot namespaceName "ingresses") name "status"
        = .ok location ∧
      Server.target? location.path = some (.status (namespaceName ++ "/" ++ name)) := by
  refine ⟨{ path := ingressPath namespaceName name ++ "/status" }, ?_, ?_⟩
  · have hstatus : Plain "/status" := by decide
    have hstatusSize : "/status".utf8ByteSize = 7 := by decide
    have hsize : (ingressPath namespaceName name ++ "/status").utf8ByteSize < Location.maxSize := by
      have hpath := utf8ByteSize_ingressPath hspace hname
      rw [String.utf8ByteSize_append, hstatusSize, Location.maxSize]
      omega
    have hparse := Location.parse_of_plain ((plain_ingressPath hspace hname).append hstatus) hsize
      (.inr rfl)
    rw [Location.ofPart, if_neg hnamed, Location.withParameters]
    simpa [ingressPath, String.append_assoc, String.join] using hparse
  · have hsplit : Text.splitOn '/' (ingressPath namespaceName name ++ "/status") = ["", "apis",
        "networking.k8s.io", "v1", "namespaces", namespaceName, "ingresses", name, "status"] := by
      refine splitOn_path (String.toList_inj.mp ?_) (by simp) ?_
      · simp [ingressPath, listPath, networkingRoot]
      · simp [hspace.noSlash, hname.noSlash]
    rw [Server.target?, hsplit]
    rfl

end Ingress

end IngressController.Api
