import IngressController.NameReference
import IngressController.Stores
import IngressController.TcpService.Backend

/-!
# `IngressController.Proofs.JoinedNames`: names that are joined by an underscore

A backend is named for its Service and the files of a certificate for their secret, in each case by
the namespace and the name with an underscore between them. A name may have underscores in it, and
so this joins `a` and `b_c` to the same text as `a_b` and `c`. But the cluster has no namespace with
an underscore: the first one in a joined name is the one that joins, and tells where the name
begins. The file of a certificate authority lies in a directory of its own, and so its path has one
slash more behind the directory of all files than that of a certificate.

* `NameReference.Possible`: a reference to an object that the cluster can have.
* `NameReference.splitOnce_joined`: such a reference can be told from its joined name.
* `backendName_print`, `certificatePath_eq` and `authorityPath_eq`: what the three rules make of a
  joined name.
* `namedApart_of_possible`: no two of these names and paths collide.
-/

set_option autoImplicit false

namespace IngressController

namespace NameReference

/-- A reference to an object that the cluster can have: there is no underscore and no slash in the
namespace, and no slash in the name. -/
structure Possible (r : NameReference) : Prop where
  namespace_noUnderscore : '_' ∉ r.namespaceName.toList
  namespace_noSlash : '/' ∉ r.namespaceName.toList
  name_noSlash : '/' ∉ r.name.toList

instance (r : NameReference) : Decidable r.Possible :=
  decidable_of_iff
    ('_' ∉ r.namespaceName.toList ∧ '/' ∉ r.namespaceName.toList ∧ '/' ∉ r.name.toList)
    ⟨fun h => ⟨h.1, h.2.1, h.2.2⟩,
      fun h => ⟨h.namespace_noUnderscore, h.namespace_noSlash, h.name_noSlash⟩⟩

/-- The namespace and the name with an underscore between them. -/
def joined (r : NameReference) : String :=
  r.namespaceName ++ "_" ++ r.name

theorem toList_joined (r : NameReference) :
    r.joined.toList = r.namespaceName.toList ++ '_' :: r.name.toList := by
  simp [joined]

variable {r r' : NameReference}

/-- The first underscore of a joined name is the one that joins. -/
theorem splitOnce_joined (h : r.Possible) :
    Text.splitOnce '_' r.joined = some (r.namespaceName, r.name) := by
  have hcut : Text.splitCharsOnce '_' r.joined.toList
      = some (r.namespaceName.toList, r.name.toList) :=
    Text.splitCharsOnce_eq_some_iff.mpr ⟨toList_joined r, h.namespace_noUnderscore⟩
  rw [Text.splitOnce, hcut]
  simp only [Option.map_some, String.ofList_toList]

/-- Joined names are distinct. -/
theorem joined_inj (h : r.Possible) (h' : r'.Possible) : r.joined = r'.joined ↔ r = r' := by
  constructor
  · intro hjoined
    have hcut := splitOnce_joined h
    rw [hjoined, splitOnce_joined h', Option.some.injEq, Prod.mk.injEq] at hcut
    cases r
    cases r'
    rw [NameReference.mk.injEq]
    exact ⟨hcut.1.symm, hcut.2.symm⟩
  · rintro rfl
    rfl

/-- There is no slash in a joined name. -/
theorem slash_notMem_joined (h : r.Possible) : '/' ∉ r.joined.toList := by
  rw [toList_joined]
  simp [h.namespace_noSlash, h.name_noSlash]

end NameReference

/-! ### The three rules -/

section Rules

variable {r : NameReference} (s : Stores)

/-- The backend for a Service has its joined name. -/
theorem backendName_print (h : r.Possible) : TcpService.backendName r.print = r.joined := by
  have hkeep : ∀ cs : List Char, '/' ∉ cs → cs.map (fun c => if c = '/' then '_' else c) = cs := by
    intro cs hcs
    have hsame : cs.map (fun c => if c = '/' then '_' else c) = cs.map id := by
      refine List.map_congr_left fun c hc => if_neg ?_
      rintro rfl
      exact hcs hc
    rw [hsame, List.map_id]
  rw [TcpService.backendName, NameReference.print, ← String.toList_inj, String.toList_ofList,
    NameReference.toList_joined]
  simp only [String.toList_append, List.map_append, hkeep _ h.namespace_noSlash,
    hkeep _ h.name_noSlash]
  simp

/-- The file with a certificate has the joined name of its secret. -/
theorem certificatePath_eq (r : NameReference) :
    s.certificatePath r.namespaceName r.name = (s.sslDir ++ "/") ++ (r.joined ++ ".pem") := by
  simp only [Stores.certificatePath, NameReference.joined, String.append_assoc]

/-- So does the file with a certificate authority, one directory below. -/
theorem authorityPath_eq (r : NameReference) :
    s.authorityPath r.namespaceName r.name
      = (s.sslDir ++ "/") ++ (("ca/" ++ r.joined) ++ ".pem") := by
  have hdirectory : "/ca/" = "/" ++ "ca/" := by decide
  simp only [Stores.authorityPath, NameReference.joined, hdirectory, String.append_assoc]

/-- Texts between the same two texts are the same if the whole texts are. -/
theorem append_append_inj {front a b back : String} :
    front ++ (a ++ back) = front ++ (b ++ back) ↔ a = b := by
  rw [← String.toList_inj, ← String.toList_inj]
  simp

end Rules

/-! ### Names and files -/

/-- The names and files for two references are kept apart: what two of them share belongs to one
reference, and no file is shared by a certificate and a certificate authority. -/
structure NamedApart (s : Stores) (r r' : NameReference) : Prop where
  backends : TcpService.backendName r.print = TcpService.backendName r'.print ↔ r = r'
  certificates : s.certificatePath r.namespaceName r.name
    = s.certificatePath r'.namespaceName r'.name ↔ r = r'
  authorities : s.authorityPath r.namespaceName r.name
    = s.authorityPath r'.namespaceName r'.name ↔ r = r'
  kinds : s.certificatePath r.namespaceName r.name ≠ s.authorityPath r'.namespaceName r'.name

/-- Whatever the directory of the files is, references that the cluster can have are kept apart. -/
theorem namedApart_of_possible (s : Stores) {r r' : NameReference} (h : r.Possible)
    (h' : r'.Possible) : NamedApart s r r' where
  backends := by
    rw [backendName_print h, backendName_print h', NameReference.joined_inj h h']
  certificates := by
    rw [certificatePath_eq, certificatePath_eq, append_append_inj, NameReference.joined_inj h h']
  authorities := by
    rw [authorityPath_eq, authorityPath_eq, append_append_inj, ← String.toList_inj]
    rw [String.toList_append, String.toList_append, List.append_cancel_left_eq,
      String.toList_inj, NameReference.joined_inj h h']
  kinds := by
    rw [certificatePath_eq, authorityPath_eq, ne_eq, append_append_inj]
    intro heq
    -- The one has no slash where the other one has that behind its own directory.
    have hslash := NameReference.slash_notMem_joined h
    rw [heq, String.toList_append] at hslash
    exact hslash (List.mem_append_left _ (by decide))

/-- A name may have underscores in it, and it may begin like the directory of the other files. -/
theorem namedApart_of_underscores :
    NameReference.Possible ⟨"a", "b_c"⟩ ∧ NameReference.Possible ⟨"ca", "a_b_c"⟩
      ∧ NamedApart { sslDir := "/ssl/ca" } ⟨"a", "b_c"⟩ ⟨"ca", "a_b_c"⟩ :=
  ⟨by decide, by decide, namedApart_of_possible _ (by decide) (by decide)⟩

/-- A namespace with an underscore would not be kept apart. -/
example : TcpService.backendName "a_b/c" = TcpService.backendName "a/b_c" := by decide

end IngressController
