import SearchPath.Handle
import SearchPath.Proofs.Url.Behind

/-!
# The URLs of resources

The URL of a resource is read from the root of its module with the path behind, just as it is
written.

1. A module is told if it has a location, or a name in which something can be seen. Its root ends in
   a slash and is done with its host (`Module.endsHost_root`).
2. Main result (`Handle.urls_tell_paths`): the URLs of a module are the URL of its root with the
   escaped paths behind it, and different for different paths, as long as no path holds a character
   that means something in a URL.
-/

namespace SearchPath

open SearchPath.Url

/-! ## Roots -/

/-- The text in front of the paths in the URLs of the resources of a module. -/
def Module.root (module : Module) : String :=
  match module.location with
  | some location => location ++ "!/"
  | none => "jrt:/" ++ module.name ++ "/"

theorem Module.root_of_location {module : Module} {location : String}
    (h : module.location = some location) : module.root = location ++ "!/" := by
  rw [root, h]

theorem Module.root_of_name {module : Module} (h : module.location = none) :
    module.root = "jrt:/" ++ module.name ++ "/" := by
  rw [root, h]

/-- The module has a location, or a name in which something can be seen. -/
def Module.IsTold (module : Module) : Prop :=
  module.location = none → visible module.name.toList ≠ []

theorem Module.getLast?_root (module : Module) : module.root.toList.getLast? = some '/' := by
  have hslash : '/' ∈ "/".toList.getLast? := by decide
  unfold root
  cases module.location with
  | some location =>
    rw [String.toList_append]
    exact List.mem_getLast?_append_of_mem_getLast? hslash
  | none =>
    rw [String.toList_append]
    exact List.mem_getLast?_append_of_mem_getLast? hslash

theorem Module.closed_root (module : Module) : Closed module.root.toList := by
  intro c hc
  rw [module.getLast?_root] at hc
  exact (Option.some.inj hc).symm

theorem Module.root_ne_nil (module : Module) : module.root.toList ≠ [] := by
  intro hnil
  have hlast := module.getLast?_root
  rw [hnil] at hlast
  cases hlast

theorem Module.readScheme_root {module : Module} (h : module.location = none) :
    readScheme (visible (strip module.root.toList)) =
      some ("jrt".toList, '/' :: (visible module.name.toList ++ ['/'])) := by
  have hroot : module.root.toList =
      'j' :: 'r' :: 't' :: ':' :: '/' :: (module.name.toList ++ ['/']) := by
    rw [Module.root_of_name h]
    simp
  have hstrip : strip module.root.toList = module.root.toList := by
    refine Text.trimBoth_eq_self (fun c hc => ?_) fun c hc => ?_
    · rw [hroot, List.head?_cons] at hc
      rw [← Option.some.inj hc]
      decide
    · rw [module.getLast?_root] at hc
      rw [← Option.some.inj hc]
      decide
  rw [hstrip, hroot, visible_cons (by decide), visible_cons (by decide), visible_cons (by decide),
    visible_cons (by decide), visible_cons (by decide), visible_append]
  have hspan (rest : List Char) : ('r' :: 't' :: ':' :: rest).span inScheme =
      (['r', 't'], ':' :: rest) := by
    show (['r', 't'] ++ ':' :: rest).span inScheme = _
    exact Text.span_first (List.all_iff_forall_prop.1 (by decide)) (by decide) rest
  unfold readScheme
  dsimp only
  rw [if_pos (by decide), hspan]
  rfl

/-- The root of a module that is told is done with its host. -/
theorem Module.endsHost_root {module : Module} (h : module.IsTold) :
    EndsHost module.root.toList := by
  intro scheme rest hread
  cases hl : module.location with
  | some location =>
    have hmark : '!' ∈ rest := by
      refine mem_of_readScheme module.closed_root module.root_ne_nil ?_ (by decide) (by decide)
        (by decide) hread
      rw [Module.root_of_location hl]
      simp
    split_ifs
    · rintro rfl
      revert hmark
      decide
    · exact ⟨'!', hmark, by decide⟩
  | none =>
    rw [Module.readScheme_root hl, Option.some.injEq, Prod.mk.injEq] at hread
    obtain ⟨rfl, rfl⟩ := hread
    rw [if_pos (by decide)]
    intro he
    obtain ⟨c, name, hname⟩ := List.exists_cons_of_ne_nil (h hl)
    rw [hname] at he
    cases name with
    | nil => simp at he
    | cons d name => simp at he

/-! ## URLs -/

namespace Handle

variable {ρ : Type}

theorem spelledUrl_eq (handle : Handle ρ) :
    handle.spelledUrl = handle.module.root ++ handle.path := by
  unfold spelledUrl Module.root
  cases handle.module.location <;> rfl

theorem url_of_ok {handle : Handle ρ} {url : Url}
    (h : Url.parse (handle.module.root.toList ++ handle.path.toList) = .ok url) :
    handle.url = .ok (String.ofList url.text) := by
  simp only [Handle.url, spelledUrl_eq, String.toList_append, h]

theorem url_of_error {handle : Handle ρ} {cause : ParseError}
    (h : Url.parse (handle.module.root.toList ++ handle.path.toList) = .error cause) :
    handle.url = .error (.url cause) := by
  simp only [Handle.url, spelledUrl_eq, String.toList_append, h]

/-- The URLs of the resources of a module start with the URL of the root, which is followed by the
path as it is escaped there, and they are different for different paths. -/
structure UrlsBehind (ρ : Type) (module : Module) (root : Url) : Prop where
  url_eq : ∀ handle : Handle ρ, handle.module = module → root.Takes handle.path.toList →
    handle.url = .ok (String.ofList
      (root.text ++ percentEncode root.escapesBehind handle.path.toList))
  path_eq : ∀ handle other : Handle ρ, handle.module = module → other.module = module →
    root.Takes handle.path.toList → root.Takes other.path.toList →
      handle.url = other.url → handle.path = other.path

/-- **URLs tell resources apart.** A module with a location, or with a name in which something can be
seen, either has a root that is no URL, and no resource has a URL then, or the URLs of its resources
stand behind its root. This is so for all paths without characters that mean something in a URL;
directly behind the host of a file a path must not start like a drive either. -/
theorem urls_tell_paths (module : Module) (hm : module.IsTold) :
    (∃ root, Url.parse module.root.toList = .ok root ∧ UrlsBehind ρ module root) ∨
    ∃ cause, Url.parse module.root.toList = .error cause ∧
      ∀ handle : Handle ρ, handle.module = module → IsLiteral handle.path.toList →
        handle.url = .error (.url cause) := by
  have hcontinues := continues_parse module.closed_root module.root_ne_nil
    (Module.endsHost_root hm)
  rcases hcontinues with ⟨root, hopen, hroot, hextend⟩ | ⟨cause, hroot, hcause⟩
  · have hurl (handle : Handle ρ) (hh : handle.module = module)
        (ht : root.Takes handle.path.toList) :
        handle.url = .ok (String.ofList
          (root.text ++ percentEncode root.escapesBehind handle.path.toList)) := by
      rw [← text_extend hopen ht.toIsLiteral]
      exact url_of_ok (hh ▸ hextend _ ht)
    refine .inl ⟨root, hroot, hurl, fun handle other hh ho ht ht' he => ?_⟩
    rw [hurl handle hh ht, hurl other ho ht', Except.ok.injEq, String.ofList_inj,
      List.append_cancel_left_eq] at he
    exact String.toList_inj.1
      (eq_of_percentEncode_eq root.coversBeyondAscii_escapesBehind ht.no_percent ht'.no_percent he)
  · refine .inr ⟨cause, hroot, fun handle hh ha => ?_⟩
    exact url_of_error (hh ▸ hcause _ ha)

/-- An archive that is known by its location. -/
def archive : Module :=
  ⟨"m", some "file:///m.jar", none⟩

/-- A blank in a path is escaped, and a path that spells the escaped blank itself has the same URL:
it is no path that can stand behind the root. -/
theorem urls_of_blank_and_escape :
    archive.IsTold ∧
      (∃ root, UrlsBehind Unit archive root ∧ root.text = "file:///m.jar!/".toList ∧
        root.Takes "a b".toList ∧ root.Takes "C:/<x>".toList) ∧
      (fresh "a b" archive : Handle Unit).url = .ok "file:///m.jar!/a%20b" ∧
      (fresh "a%20b" archive : Handle Unit).url = .ok "file:///m.jar!/a%20b" ∧
      ¬IsLiteral "a%20b".toList := by
  have htold : archive.IsTold := fun hnone => nomatch hnone
  refine ⟨htold, ?_, by decide +kernel, by decide +kernel, by decide⟩
  rcases urls_tell_paths archive htold with ⟨root, hroot, hurls⟩ | ⟨cause, hroot, -⟩
  · have hparse : Url.parse archive.root.toList =
        .ok ⟨"file".toList, some ⟨[], none, none⟩, .segments ["m.jar!".toList, []], none, none⟩ := by
      decide +kernel
    rw [hparse, Except.ok.injEq] at hroot
    have htakes (added : List Char) (h : IsLiteral added) : root.Takes added := by
      refine ⟨h, fun hfile => absurd hfile.2 ?_⟩
      rw [← hroot]
      decide
    refine ⟨root, hurls, ?_, htakes _ (by decide), htakes _ (by decide)⟩
    rw [← hroot]
    decide
  · have hparse : (Url.parse archive.root.toList).isOk = true := by decide +kernel
    rw [hroot] at hparse
    cases hparse

/-- The other marks, blanks at the end and names without anything visible bring different paths to
one URL as well. -/
example : ∀ c ∈ [(some "file:///m.jar", "a/..?x", "b/..?x", "file:///m.jar!/?x"),
      (some "file:///m.jar", "a/..#x", "b/..#x", "file:///m.jar!/#x"),
      (some "file:///m.jar", "a\\b", "a/b", "file:///m.jar!/a/b"),
      (some "file:///m.jar", "a\tb", "ab", "file:///m.jar!/ab"),
      (some "file:///m.jar", "a ", "a", "file:///m.jar!/a"),
      (none, "a:080/x", "a:80/x", "jrt://a:80/x")],
    (fresh c.2.1 ⟨"", c.1, none⟩ : Handle Unit).url = .ok c.2.2.2 ∧
      (fresh c.2.2.1 ⟨"", c.1, none⟩ : Handle Unit).url = .ok c.2.2.2 := by
  decide +kernel

end Handle

end SearchPath
