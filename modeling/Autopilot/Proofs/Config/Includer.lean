import Autopilot.Proofs.Config.Circle

/-!
What a file includes, whatever the base. The path in an inclusion is joined to the directory of the
file that it stands in, as that file was read, and the result is taken from the base once more. From
a base that paths lead on from only once that makes no difference; from any other one a relative path
leads into the base before it leads to where the file is.
-/

namespace Autopilot

namespace Path

variable {base p dir : Path}

/-- The path that is read for a name in a file of a directory. -/
def inclusion (base dir : Path) (name : String) : Path := base.join (dir.join ⟨name⟩)

/-- A path that has been read from such a base has a directory that leads on from there. -/
theorem Grounded.inclusion_eq (grounded : base.Grounded) (found : p.parent? = some dir)
    {path : Path} (read : p = base.join path) (name : String) :
    base.inclusion dir name = dir.join ⟨name⟩ := by
  have stays : base.join p = p := by
    rw [read]
    exact grounded.join_join path
  exact grounded.join_from_parent found stays ⟨name⟩

/-- A relative path takes the steps of the base and then its own. -/
theorem steps_inclusion {name : String} (relative : (dir.join ⟨name⟩).isAbsolute = false) :
    (base.inclusion dir name).steps = base.steps ++ (dir.join ⟨name⟩).steps :=
  steps_join base relative

theorem steps_inclusion_eq_iff {name : String} (relative : (dir.join ⟨name⟩).isAbsolute = false) :
    (base.inclusion dir name).steps = (dir.join ⟨name⟩).steps ↔ base.steps = [] := by
  rw [steps_inclusion relative]
  exact List.append_left_eq_self

end Path

namespace Loading

section Read

variable {m : Type → Type} [Monad m] [LawfulMonad m]

theorem expand_include (surroundings : Surroundings m) {base p dir : Path}
    (found : p.parent? = some dir) (load : Path → Loading m Datum) (name : String) :
    expand surroundings base p load (.tagged "!include" (.text name)) = load (dir.join ⟨name⟩) := by
  rw [expand, if_pos rfl, included_of_parent found, pure_bind]

end Read

/-- A path in a file is joined to the directory of the file as it was read, and what is looked for and
read is the result as seen from the base; all that is loaded is loaded in that way. It is the result
itself that is read if it is absolute, or if the base is empty or absolute and the file was read from
there. Else it takes the steps of the base first, and leads to where the base leads and on from there. -/
theorem inclusion_read (base : Path) :
    (∀ (s : Setting) (depth : Nat) (files : List Path) (path : Path),
      Tells (file s.surroundings base depth path) files (s.outcomeFrom base depth files path)) ∧
    ∀ (p dir : Path), p.parent? = some dir → ∀ name : String,
      (∀ {m : Type → Type} [Monad m] [LawfulMonad m] (surroundings : Surroundings m) (depth : Nat)
        (files : List Path),
        (expand surroundings base p (file surroundings base (depth + 1))
          (.tagged "!include" (.text name))).run.run files =
          if files.any fun file => file.same (base.inclusion dir name) then
            pure (.error (.circular (base.inclusion dir name)), files)
          else (do
            match ← surroundings.read (base.inclusion dir name) with
            | .error fault => return (.error (.unreadable (base.inclusion dir name) fault), files)
            | .ok text =>
              (content surroundings base depth (base.inclusion dir name) text).run.run files)) ∧
      ((dir.join ⟨name⟩).isAbsolute = true → base.inclusion dir name = dir.join ⟨name⟩) ∧
      (base.Grounded → ∀ path, p = base.join path → base.inclusion dir name = dir.join ⟨name⟩) ∧
      ((dir.join ⟨name⟩).isAbsolute = false →
        ((base.inclusion dir name).steps = (dir.join ⟨name⟩).steps ↔ base.steps = []) ∧
        ∀ (tree : FileTree) (place : FileTree.Place),
          (base.inclusion dir name).parts.foldlM tree.step place = (do
            let inside ← base.parts.foldlM tree.step place
            (dir.join ⟨name⟩).parts.foldlM tree.step inside)) := by
  refine ⟨fun s => file_tells_from s base, fun p dir found name => ⟨?_, ?_, ?_, ?_⟩⟩
  · intro m _ _ surroundings depth files
    rw [expand_include surroundings found]
    exact file_run_of surroundings base depth (dir.join ⟨name⟩) files
  · exact Path.join_of_absolute base
  · exact fun grounded path read => grounded.inclusion_eq found read name
  · intro relative
    refine ⟨Path.steps_inclusion_eq_iff relative, fun tree place => ?_⟩
    unfold Path.inclusion
    rw [Path.parts_join base relative, List.foldlM_append]

/-- A file in a directory that includes the one beside it. -/
def besideTree : FileTree :=
  .ofList [("conf/main.yaml", some "!include x.yaml\n"), ("conf/x.yaml", some "5\n")]

theorem inclusion_read_besideTree :
    Path.parent? ⟨"conf/main.yaml"⟩ = some ⟨"conf"⟩ ∧ LawfulMonad Id ∧
    (⟨"conf"⟩ : Path).inclusion ⟨"conf"⟩ "x.yaml" = ⟨"conf/conf/x.yaml"⟩ ∧
    ∀ depth, (expand (Setting.ofTree besideTree []).surroundings ⟨"conf"⟩ ⟨"conf/main.yaml"⟩
      (file (Setting.ofTree besideTree []).surroundings ⟨"conf"⟩ (depth + 1))
      (.tagged "!include" (.text "x.yaml"))).run.run [⟨"conf/main.yaml"⟩] =
        (.error (.unreadable ⟨"conf/conf/x.yaml"⟩ .notFound), [⟨"conf/main.yaml"⟩]) := by
  have found : Path.parent? ⟨"conf/main.yaml"⟩ = some ⟨"conf"⟩ := by decide
  obtain ⟨reads, _⟩ := (inclusion_read ⟨"conf"⟩).2 ⟨"conf/main.yaml"⟩ ⟨"conf"⟩ found "x.yaml"
  exact ⟨found, inferInstance, by decide, fun depth => reads _ depth [⟨"conf/main.yaml"⟩]⟩

/-- The file beside the one that includes it is there and is not read. -/
theorem load_beside_of_inside :
    (Path.directory ⟨"conf/main.yaml"⟩).join ⟨"x.yaml"⟩ = ⟨"conf/x.yaml"⟩ ∧
    besideTree.read ⟨"conf/x.yaml"⟩ = .ok "5\n" ∧
    (⟨"conf"⟩ : Path).join ⟨"main.yaml"⟩ = ⟨"conf/main.yaml"⟩ ∧
    loadDatum (Setting.ofTree besideTree []).surroundings ⟨"conf"⟩ ⟨"main.yaml"⟩ =
      .error (.unreadable ⟨"conf/conf/x.yaml"⟩ .notFound) := by
  let s := Setting.ofTree besideTree []
  let inside (n : Nat) := s.outcomeFrom ⟨"conf"⟩ (n + 1) [⟨"conf/main.yaml"⟩]
  have named : Setting.names? "!include x.yaml\n" = some [some "x.yaml"] := by decide +kernel
  obtain ⟨d, parsed, marks⟩ := Setting.single_of_names named
  have found : s.document ⟨"conf/main.yaml"⟩ = .ok d := Setting.document_of_read rfl parsed
  have whole (n : Nat) : s.outcomeFrom ⟨"conf"⟩ (n + 1 + 1) [] ⟨"main.yaml"⟩ =
      d.settle (s.outcomeOf (inside n) ⟨"conf/main.yaml"⟩) :=
    Setting.outcomeFrom_of_document (n + 1) List.any_nil found
  have fails (n : Nat) : d.settle (s.outcomeOf (inside n) ⟨"conf/main.yaml"⟩) =
      .error (.unreadable ⟨"conf/conf/x.yaml"⟩ .notFound) := by
    have values : ∀ earlier ∈ ([] : List Mark), s.outcomeOf (inside n) ⟨"conf/main.yaml"⟩ earlier =
        .ok ((fun _ => Datum.null) earlier) := List.forall_mem_nil _
    exact Datum.settle_of_failure marks values rfl
  have depth : maxIncludes = (maxIncludes - 2) + 1 + 1 := rfl
  have told := file_tells_from s ⟨"conf"⟩ maxIncludes [] ⟨"main.yaml"⟩
  refine ⟨by decide, rfl, by decide, (congrArg Prod.fst told).trans ?_⟩
  rw [depth]
  exact (whole _).trans (fails _)

end Loading
end Autopilot
