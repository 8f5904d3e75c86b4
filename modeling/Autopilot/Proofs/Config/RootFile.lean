import Autopilot.Config.Loader
import Autopilot.Proofs.Path

/-!
The file that a configuration is read from. The directory of a path is the base of all that
is loaded, and the path itself is taken from there too: a relative path with a directory
leads into that directory twice. It is the path itself that is read only where it is
absolute or its directory is the current one.
-/

namespace Autopilot

/-! ## The path of the file -/

namespace Path

/-- The path as it is seen from its own directory. -/
def rootFile (p : Path) : Path := (p.parent?.getD ⟨"."⟩).join p

/-- The components that are not dots. -/
def named (parts : List String) : List Component := (parts.filter (· ≠ ".")).map Component.ofPart

theorem components_of_relative {p : Path} (relative : p.isAbsolute = false) :
    p.components = (if p.parts.head? = some "." then [.here] else []) ++ named p.parts := by
  unfold components named
  rw [relative, if_neg Bool.false_ne_true]
  split <;> rfl

theorem named_append (first rest : List String) : named (first ++ rest) = named first ++ named rest := by
  unfold named
  rw [List.filter_append, List.map_append]

theorem named_eq_nil_iff (parts : List String) : named parts = [] ↔ ∀ part ∈ parts, part = "." := by
  unfold named
  rw [List.map_eq_nil_iff, List.filter_eq_nil_iff]
  simp

theorem rootFile_of_absolute {p : Path} (absolute : p.isAbsolute = true) : p.rootFile = p := by
  unfold rootFile join
  rw [if_pos absolute]

theorem parts_rootFile {p parent : Path} (relative : p.isAbsolute = false)
    (found : p.parent? = some parent) : p.rootFile.parts = parent.parts ++ p.parts := by
  unfold rootFile
  rw [found]
  exact parts_join parent relative

theorem root_not_mem {p : Path} (relative : p.isAbsolute = false) : .root ∉ p.components := by
  rw [components_of_relative relative]
  intro member
  rcases List.mem_append.1 member with lead | member
  · split at lead <;> simp at lead
  · obtain ⟨part, _, same⟩ := List.mem_map.1 member
    unfold Component.ofPart at same
    split at same <;> cases same

/-- Only a path without components has no parent, unless it is absolute. -/
theorem components_of_orphan {p : Path} (relative : p.isAbsolute = false)
    (orphan : p.parent? = none) : p.components = [] := by
  unfold parent? at orphan
  split at orphan
  next none => exact List.getLast?_eq_none_iff.1 none
  next root => exact absurd (List.mem_of_getLast? root) (root_not_mem relative)
  next => cases orphan

/-- The file is the one of the path itself if and only if the path is absolute or has no other
directory than the current one. -/
theorem same_rootFile_iff (p : Path) : p.rootFile.same p = true ↔
    p.isAbsolute = true ∨ ∃ parent, p.parent? = some parent ∧ ∀ part ∈ parent.parts, part = "." := by
  unfold same
  rw [decide_eq_true_eq]
  cases relative : p.isAbsolute with
  | true => exact ⟨fun _ => .inl rfl, fun _ => congrArg components (rootFile_of_absolute relative)⟩
  | false =>
    cases found : p.parent? with
    | none =>
      have here : (⟨"."⟩ : Path).isAbsolute = false := rfl
      have dotted : p.rootFile = (⟨"."⟩ : Path).join p := by
        unfold rootFile
        rw [found, Option.getD_none]
      have parts : p.rootFile.parts = "." :: p.parts := by
        rw [dotted, parts_join _ relative]
        rfl
      have twice : p.rootFile.isAbsolute = false := dotted ▸ isAbsolute_join here relative
      rw [components_of_orphan relative found, components_of_relative twice, parts,
        List.head?_cons, if_pos rfl]
      constructor
      · intro same
        cases same
      · rintro (absolute | ⟨parent, nothing, _⟩)
        · cases absolute
        · cases nothing
    | some parent =>
      have base := isAbsolute_of_parent found relative
      have twice : p.rootFile.isAbsolute = false := by
        unfold rootFile
        rw [found, Option.getD_some]
        exact isAbsolute_join base relative
      obtain ⟨more, begins⟩ := parts_of_parent found
      have start : (parent.parts ++ p.parts).head? = p.parts.head? := by
        rw [begins]
        cases parent.parts <;> rfl
      rw [components_of_relative twice, components_of_relative relative,
        parts_rootFile relative found, start, named_append]
      constructor
      · intro same
        have nothing := List.append_left_eq_self.1 (List.append_cancel_left same)
        exact .inr ⟨parent, rfl, (named_eq_nil_iff _).1 nothing⟩
      · rintro (absolute | ⟨_, again, dots⟩)
        · cases absolute
        · cases again
          rw [(named_eq_nil_iff _).2 dots, List.nil_append]

end Path

/-! ## Reading it -/

section Load

variable {m : Type → Type} [Monad m]

/-- The datum in a text that was read from a file. -/
def Loading.content (surroundings : Surroundings m) (base : Path) (depth : Nat) (path : Path)
    (text : String) : Loading m Datum := do
  modify (path :: ·)
  Loading.leaving path <|
    match surroundings.parse text with
    | none => throw (.malformed path)
    | some d => Loading.expand surroundings base path (Loading.file surroundings base depth) d

theorem Loading.bind_run [LawfulMonad m] {α β : Type} (part : Loading m α) (next : α → Loading m β)
    (files : List Path) :
    (part >>= next).run.run files = (do
      match ← part.run.run files with
      | (.ok value, files) => (next value).run.run files
      | (.error error, files) => return (.error error, files)) := by
  rw [ExceptT.run_bind, StateT.run_bind]
  refine bind_congr fun ⟨outcome, files⟩ => ?_
  cases outcome <;> rfl

theorem Loading.get_bind_run [LawfulMonad m] {β : Type} (next : List Path → Loading m β)
    (files : List Path) : (get >>= next).run.run files = (next files).run.run files := by
  have looked : (get : Loading m (List Path)).run.run files = pure (.ok files, files) :=
    pure_bind _ _
  rw [Loading.bind_run, looked, pure_bind]

theorem Loading.lift_bind_run [LawfulMonad m] {α β : Type} (call : m α) (next : α → Loading m β)
    (files : List Path) :
    (ExceptT.lift (StateT.lift call) >>= next).run.run files = (do
      let answer ← call
      (next answer).run.run files) := by
  have called : (ExceptT.lift (StateT.lift call) : Loading m α).run.run files = (do
      let answer ← call
      return (.ok answer, files)) := by
    simp [ExceptT.lift]
  rw [Loading.bind_run, called, bind_assoc]
  exact bind_congr fun answer => pure_bind _ _

theorem Loading.modify_bind_run [LawfulMonad m] {β : Type} (change : List Path → List Path) (next : Unit → Loading m β)
    (files : List Path) :
    (modify change >>= next).run.run files = (next ()).run.run (change files) := by
  have changed : (modify change : Loading m Unit).run.run files = pure (.ok (), change files) :=
    pure_bind _ _
  rw [Loading.bind_run, changed, pure_bind]

/-- A part of the loading is carried out to its end. -/
theorem Loading.tried_bind_run [LawfulMonad m] {α β : Type} (part : Loading m α) (next : Except LoadError α → Loading m β)
    (files : List Path) :
    (ExceptT.lift (ExceptT.run part) >>= next).run.run files = (do
      let (outcome, files) ← part.run.run files
      (next outcome).run.run files) := by
  have tried : (ExceptT.lift (ExceptT.run part) : Loading m (Except LoadError α)).run.run files = (do
      let (outcome, files) ← part.run.run files
      return (.ok outcome, files)) := by
    simp [ExceptT.lift]
  rw [Loading.bind_run, tried, bind_assoc]
  exact bind_congr fun answer => pure_bind _ _

/-- A part of the loading that stands between entering a file and leaving it finds the file on the list.
In the end the list is without it, whatever the outcome. -/
theorem Loading.entered_run [LawfulMonad m] (p : Path) (part : Loading m Datum) (files : List Path) :
    (do modify (p :: ·); Loading.leaving p part : Loading m Datum).run.run files = (do
      let (outcome, files) ← part.run.run (p :: files)
      return (outcome, files.filter fun file => !file.same p)) := by
  rw [Loading.modify_bind_run]
  unfold Loading.leaving
  rw [Loading.tried_bind_run]
  refine bind_congr fun ⟨outcome, files⟩ => ?_
  dsimp only
  rw [Loading.modify_bind_run]
  cases outcome <;> rfl

/-- Only the file itself is taken off the list again. -/
theorem Loading.filter_cons_of_fresh {files : List Path} {p : Path}
    (fresh : files.any (fun file => file.same p) = false) :
    (p :: files).filter (fun file => !file.same p) = files := by
  have self : p.same p = true := decide_eq_true rfl
  rw [List.filter_cons_of_neg (by rw [self]; exact Bool.false_ne_true), List.filter_eq_self]
  intro file member
  rw [Bool.not_eq_true', Bool.eq_false_iff]
  exact List.any_eq_false.1 fresh file member

/-- A file is looked for among those being loaded, read, and then entered. -/
theorem Loading.file_run_of [LawfulMonad m] (surroundings : Surroundings m) (base : Path)
    (depth : Nat) (path : Path) (files : List Path) :
    (Loading.file surroundings base (depth + 1) path).run.run files =
      if files.any fun file => file.same (base.join path) then
        pure (.error (.circular (base.join path)), files)
      else (do
        match ← surroundings.read (base.join path) with
        | .error fault => return (.error (.unreadable (base.join path) fault), files)
        | .ok text =>
          (Loading.content surroundings base depth (base.join path) text).run.run files) := by
  rw [Loading.file]
  dsimp only
  rw [Loading.get_bind_run]
  split
  next => exact (Loading.bind_run _ _ _).trans (pure_bind _ _)
  next =>
    rw [Loading.lift_bind_run]
    refine bind_congr fun answer => ?_
    cases answer <;> rfl

/-- Nothing is being loaded before the root file. -/
theorem Loading.file_run [LawfulMonad m] (surroundings : Surroundings m) (base : Path) (depth : Nat)
    (path : Path) :
    (Loading.file surroundings base (depth + 1) path).run.run [] = (do
      match ← surroundings.read (base.join path) with
      | .error fault => return (.error (.unreadable (base.join path) fault), [])
      | .ok text =>
        (Loading.content surroundings base depth (base.join path) text).run.run []) := by
  rw [Loading.file_run_of, List.any_nil, if_neg Bool.false_ne_true]

namespace Config

/-- What is made of the text of the root file. -/
def loadText (surroundings : Surroundings m) (path : Path) (text : String) :
    m (Except LoadError Config) := do
  let base := path.parent?.getD ⟨"."⟩
  match (← (Loading.content surroundings base (maxIncludes - 1) path.rootFile text).run.run []).1 with
  | .error error => return .error error
  | .ok d => return do
    let config ← ofDatum path d
    config.validate.mapError .defect
    return config

/-- Loading reads the root file first of all, fails if it cannot be read, and else goes on with
its text. -/
theorem load_eq [LawfulMonad m] (surroundings : Surroundings m) (path : Path) :
    load surroundings path = (do
      match ← surroundings.read path.rootFile with
      | .error fault => return .error (.unreadable path.rootFile fault)
      | .ok text => loadText surroundings path text) := by
  have depth : maxIncludes = (maxIncludes - 1) + 1 := rfl
  unfold load loadDatum
  dsimp only
  rw [depth, Loading.file_run, bind_assoc, bind_assoc]
  refine bind_congr fun answer => ?_
  cases answer with
  | error fault =>
    dsimp only
    rw [pure_bind, pure_bind]
    rfl
  | ok text =>
    unfold loadText
    dsimp only
    exact bind_congr fun outcome => pure_bind _ _

/-- The root file is the path as seen from its own directory. That is the path itself if and only if
it is absolute or its directory is the current one; from anywhere else it leads on from where its
directory leads. -/
theorem load_rootFile [LawfulMonad m] (surroundings : Surroundings m) (path : Path) :
    load surroundings path = (do
      match ← surroundings.read path.rootFile with
      | .error fault => return .error (.unreadable path.rootFile fault)
      | .ok text => loadText surroundings path text) ∧
    (path.rootFile.same path = true ↔ path.isAbsolute = true ∨
      ∃ parent, path.parent? = some parent ∧ ∀ part ∈ parent.parts, part = ".") ∧
    ∀ parent, path.isAbsolute = false → path.parent? = some parent →
      ∀ (tree : FileTree) (place : FileTree.Place), path.rootFile.parts.foldlM tree.step place = (do
        let inside ← parent.parts.foldlM tree.step place
        path.parts.foldlM tree.step inside) := by
  refine ⟨load_eq surroundings path, path.same_rootFile_iff, ?_⟩
  intro parent relative found tree place
  rw [Path.parts_rootFile relative found, List.foldlM_append]

/-- Only the files of a tree, and no variables. -/
def ofTree (tree : FileTree) : Surroundings Id where
  read path := tree.read path
  lookup _ := none

/-- A configuration in a directory. -/
def confTree : FileTree := .ofList [("conf/config.yaml", some "")]

/-- A configuration in the directory of that name in the directory. -/
def innerTree : FileTree := .ofList [("conf/conf/config.yaml", some "")]

theorem load_rootFile_confTree :
    LawfulMonad Id ∧ (Path.rootFile ⟨"conf/config.yaml"⟩).same ⟨"conf/config.yaml"⟩ = false ∧
    load (ofTree confTree) ⟨"conf/config.yaml"⟩ =
      .error (.unreadable ⟨"conf/conf/config.yaml"⟩ .notFound) := by
  obtain ⟨loaded, _⟩ := load_rootFile (ofTree confTree) ⟨"conf/config.yaml"⟩
  exact ⟨inferInstance, by decide, loaded⟩

/-- The file that a path names is there and is not read, and it is missing and another one is read
for it. -/
theorem load_conf_of_other :
    confTree.read ⟨"conf/config.yaml"⟩ = .ok "" ∧
    load (ofTree confTree) ⟨"conf/config.yaml"⟩ =
      .error (.unreadable ⟨"conf/conf/config.yaml"⟩ .notFound) ∧
    innerTree.read ⟨"conf/config.yaml"⟩ = .error .notFound ∧
    load (ofTree innerTree) ⟨"conf/config.yaml"⟩ =
      loadText (ofTree innerTree) ⟨"conf/config.yaml"⟩ "" :=
  ⟨rfl, load_eq (ofTree confTree) _, rfl, load_eq (ofTree innerTree) _⟩

end Config

end Load

end Autopilot
