import Autopilot.Proofs.Config.Tree
import Autopilot.Proofs.Config.Variable
import Mathlib.Logic.Relation

/-!
Configurations whose files do not include each other in circles. A file then has contents that
are told without regard to what is being loaded: its document with the contents of the named file
in the place of each inclusion and the scalar in the place of each variable, or the failure of
the first mark that fails. Loading comes to these contents. There is nothing left to be replaced
in them, and nothing is wrong with including a file again.
-/

namespace Autopilot

namespace Setting

/-- A file, or a mark in it. -/
inductive Site where
  | file (p : Path)
  | mark (p : Path) (mark : Mark)

section

variable (s : Setting)

/-- What stands in a file or in the place of a mark, or why nothing does. -/
inductive Contents : Site → Except LoadError Datum → Prop
  | missing {p : Path} {error : LoadError} (none : s.document p = .error error) :
    Contents (.file p) (.error error)
  | whole {p : Path} {d : Datum} {value : Mark → Datum} (found : s.document p = .ok d)
      (each : ∀ mark ∈ d.marks, Contents (.mark p mark) (.ok (value mark))) :
    Contents (.file p) (.ok (d.replace value))
  | broken {p : Path} {d : Datum} {value : Mark → Datum} {before after : List Mark} {mark : Mark}
      {error : LoadError} (found : s.document p = .ok d) (listed : d.marks = before ++ mark :: after)
      (each : ∀ earlier ∈ before, Contents (.mark p earlier) (.ok (value earlier)))
      (fails : Contents (.mark p mark) (.error error)) :
    Contents (.file p) (.error error)
  | included {p : Path} {name : String} {outcome : Except LoadError Datum}
      (loaded : Contents (.file (p.directory.join ⟨name⟩)) outcome) :
    Contents (.mark p (.file (.text name))) outcome
  | pathless {p : Path} {named : Datum} (other : ∀ name, named ≠ .text name) :
    Contents (.mark p (.file named)) (.error (.badInclude named))
  | scalar {p : Path} {named : Datum} {outcome : Except LoadError Datum}
      (stands : s.Stands named outcome) : Contents (.mark p (.scalar named)) outcome

/-- The files that a file has marks for. -/
def included (p : Path) : List Path :=
  match s.document p with
  | .ok d => d.marks.filterMap fun mark => mark.name?.map fun name => p.directory.join ⟨name⟩
  | .error _ => []

def Includes (p q : Path) : Prop := q ∈ s.included p

/-- No file that inclusions lead to is included again on the way on from it. -/
def Acyclic (root : Path) : Prop :=
  ∀ p q, Relation.ReflTransGen s.Includes root p → Relation.TransGen s.Includes p q →
    p.same q = false

end

variable {s : Setting}

theorem includes_of_mark {p : Path} {d : Datum} {name : String} (found : s.document p = .ok d)
    (member : .file (.text name) ∈ d.marks) : s.Includes p (p.directory.join ⟨name⟩) := by
  unfold Includes included
  rw [found]
  exact List.mem_filterMap.2 ⟨_, member, rfl⟩

/-! ## The same contents each time -/

theorem Contents.unique {site : Site} {outcome other : Except LoadError Datum}
    (told : s.Contents site outcome) (again : s.Contents site other) : outcome = other := by
  induction told generalizing other with
  | missing none =>
    cases again with
    | missing none' => exact none.symm.trans none'
    | whole found | broken found =>
      rw [none] at found
      cases found
  | whole found each same =>
    cases again with
    | missing none =>
      rw [found] at none
      cases none
    | whole found' each' =>
      rw [found] at found'
      cases found'
      exact congrArg Except.ok (Datum.replace_congr _ fun mark member =>
        Except.ok.inj (same mark member (each' mark member)))
    | broken found' listed' each' fails' =>
      rw [found] at found'
      cases found'
      cases same _ (listed' ▸ List.mem_append_cons_self) fails'
  | @broken p d value before after mark error found listed each fails sameEach sameFails =>
    cases again with
    | missing none =>
      rw [found] at none
      cases none
    | whole found' each' =>
      rw [found] at found'
      cases found'
      cases sameFails (each' _ (listed ▸ List.mem_append_cons_self))
    | broken found' listed' each' fails' =>
      rw [found] at found'
      cases found'
      -- A mark before the one that fails cannot be the one that fails.
      rcases List.append_eq_append_iff.1 (listed.symm.trans listed') with
        ⟨between, front, rest⟩ | ⟨between, front, rest⟩
      · cases between with
        | nil =>
          cases rest
          exact sameFails fails'
        | cons first between =>
          cases rest
          cases sameFails (each' _ (front ▸ List.mem_append_cons_self))
      · cases between with
        | nil =>
          cases rest
          exact sameFails fails'
        | cons first between =>
          cases rest
          cases sameEach _ (front ▸ List.mem_append_cons_self) fails'
  | included loaded same =>
    cases again with
    | included loaded' => exact same loaded'
    | pathless other => exact absurd rfl (other _)
  | pathless other =>
    cases again with
    | included => exact absurd rfl (other _)
    | pathless => rfl
  | scalar stands =>
    cases again with
    | scalar stands' => exact (stands_iff.1 stands).trans (stands_iff.1 stands').symm

/-! ## Nothing left to be replaced -/

theorem Stands.unmarked {named d : Datum} (stands : s.Stands named (.ok d)) : d.marks = [] := by
  cases stands with
  | set names found denotes | fallback names unset denotes => cases denotes <;> rfl

theorem Contents.unmarked {site : Site} {outcome : Except LoadError Datum}
    (told : s.Contents site outcome) {d : Datum} (fine : outcome = .ok d) : d.marks = [] := by
  induction told generalizing d with
  | whole found each unmarked =>
    cases fine
    rw [Datum.marks_replace, List.flatMap_eq_nil_iff]
    exact fun mark member => unmarked mark member rfl
  | included loaded unmarked => exact unmarked fine
  | scalar stands =>
    cases fine
    exact stands.unmarked
  | missing | broken | pathless => cases fine

theorem Contents.not_nesting {site : Site} {outcome : Except LoadError Datum}
    (told : s.Contents site outcome) {error : LoadError} (failed : outcome = .error error) :
    error.isNesting = false := by
  induction told generalizing error with
  | missing none =>
    cases failed
    exact document_not_nesting none
  | broken found listed each fails sameEach other =>
    cases failed
    exact other rfl
  | included loaded other => exact other failed
  | pathless other =>
    cases failed
    rfl
  | scalar stands => exact scalar_not_nesting ((stands_iff.1 stands).symm.trans failed)
  | whole => cases failed

/-! ## Loading comes to the contents -/

/-- Inclusions lead from the root file to one file that is being loaded after the other, and on to
a file. The files are listed innermost first. -/
structure Nested (s : Setting) (root : Path) (files : List Path) (p : Path) : Prop where
  reached : Relation.ReflTransGen s.Includes root p
  onward : ∀ file ∈ files, Relation.ReflTransGen s.Includes root file ∧
    Relation.TransGen s.Includes file p
  inward : files.Pairwise fun inner outer => Relation.TransGen s.Includes outer inner

theorem Nested.start (root : Path) : s.Nested root [] root where
  reached := .refl
  onward _ member := (List.not_mem_nil member).elim
  inward := .nil

theorem Nested.step {root p q : Path} {files : List Path} (nested : s.Nested root files p)
    (includes : s.Includes p q) : s.Nested root (p :: files) q where
  reached := nested.reached.tail includes
  onward file member := by
    rcases List.mem_cons.1 member with rfl | member
    · exact ⟨nested.reached, .single includes⟩
    · exact ⟨(nested.onward file member).1, (nested.onward file member).2.tail includes⟩
  inward := .cons (fun file member => (nested.onward file member).2) nested.inward

/-- Files are nested too deep only where one leads to another that often. -/
theorem Nested.of_tooDeep {root p q : Path} {files : List Path} {depth : Nat}
    (nested : s.Nested root files p) (failed : s.outcome depth files p = .error (.tooDeep q)) :
    ∃ deeper, deeper.length = files.length + depth ∧ s.Nested root deeper q := by
  induction depth generalizing files p with
  | zero =>
    cases failed
    exact ⟨files, rfl, nested⟩
  | succ depth ih =>
    rcases outcome_nesting rfl failed with ⟨_, same⟩ |
      ⟨d, before, after, name, _, _, found, listed, _, fails⟩
    · cases same
    · have member : .file (.text name) ∈ d.marks :=
        listed ▸ List.mem_append_right _ List.mem_cons_self
      obtain ⟨deeper, long, inside⟩ := ih (nested.step (includes_of_mark found member)) fails
      exact ⟨deeper, by rw [long, List.length_cons]; omega, inside⟩

theorem Acyclic.fresh {root p : Path} {files : List Path} (acyclic : s.Acyclic root)
    (nested : s.Nested root files p) : (files.any fun file => file.same p) = false := by
  rw [List.any_eq_false]
  intro file member
  rw [Bool.not_eq_true]
  exact acyclic file p (nested.onward file member).1 (nested.onward file member).2

/-- Files that can be listed so that inclusions lead forward do not include each other in circles. -/
theorem acyclic_of_forward {root : Path} (known : List Path) (start : root ∈ known)
    (forward : ∀ p ∈ known, ∀ q ∈ s.included p, q ∈ known ∧ known.idxOf p < known.idxOf q)
    (apart : ∀ p ∈ known, ∀ q ∈ known, p.same q = true → p = q) : s.Acyclic root := by
  intro p q reached onward
  have listed : p ∈ known := by
    clear onward
    induction reached with
    | refl => exact start
    | tail _ includes ih => exact (forward _ ih _ includes).1
  have later : q ∈ known ∧ known.idxOf p < known.idxOf q := by
    induction onward with
    | single includes => exact forward p listed _ includes
    | tail _ includes ih =>
      have next := forward _ ih.1 _ includes
      exact ⟨next.1, ih.2.trans next.2⟩
  rw [Bool.eq_false_iff]
  intro same
  cases apart p listed q later.1 same
  exact Nat.lt_irrefl _ later.2

/-- If files are not nested too deep, then one comes to its contents. -/
theorem contents_of_outcome {root : Path} (acyclic : s.Acyclic root) {depth : Nat}
    {files : List Path} {p : Path} (nested : s.Nested root files p)
    (lasting : ∀ q, s.outcome depth files p ≠ .error (.tooDeep q)) :
    s.Contents (.file p) (s.outcome depth files p) := by
  induction depth generalizing files p with
  | zero => exact absurd rfl (lasting p)
  | succ depth ih =>
    unfold outcome at lasting ⊢
    rw [acyclic.fresh nested, if_neg Bool.false_ne_true] at lasting ⊢
    cases found : s.document p with
    | error error => exact .missing found
    | ok d =>
      rw [found] at lasting
      dsimp only at lasting ⊢
      have marked {mark : Mark} (member : mark ∈ d.marks)
          (passing : ∀ q, s.outcomeOf (s.outcome depth (p :: files)) p mark ≠ .error (.tooDeep q)) :
          s.Contents (.mark p mark) (s.outcomeOf (s.outcome depth (p :: files)) p mark) := by
        cases mark with
        | scalar named => exact .scalar (stands_iff.2 rfl)
        | file named =>
          cases named with
          | text name =>
            exact .included (ih (nested.step (includes_of_mark found member)) passing)
          | _ => exact .pathless (by simp)
      rcases Datum.settle_cases (s.outcomeOf (s.outcome depth (p :: files)) p) d with
        ⟨value, values, told⟩ | ⟨value, before, after, mark, error, listed, values, fails, told⟩
      · rw [told]
        refine .whole found fun mark member => ?_
        have contents := marked member
        rw [values mark member] at contents
        exact contents fun q failed => by cases failed
      · rw [told] at lasting ⊢
        have fine (earlier : Mark) (first : earlier ∈ before) :
            s.Contents (.mark p earlier) (.ok (value earlier)) := by
          have contents := marked (listed ▸ List.mem_append_left _ first)
          rw [values earlier first] at contents
          exact contents fun q failed => by cases failed
        have failing := marked (listed ▸ List.mem_append_cons_self)
        rw [fails] at failing
        exact .broken found listed fine (failing lasting)

/-- With a base that leaves paths as they are, and no circles of inclusions, loading comes to the
contents of the root file, which are unique: its document with each inclusion and each variable
replaced, or the failure of the first of them that fails. Nothing is left to be replaced, and no
failure is about files inside each other, however often they are included. -/
theorem file_contents (s : Setting) {base root : Path} (grounded : base.Grounded)
    (acyclic : s.Acyclic (base.join root)) :
    ∃ outcome, (∀ told, s.Contents (.file (base.join root)) told ↔ told = outcome) ∧
      (∃ enough, ∀ depth, enough ≤ depth →
        (Loading.file s.surroundings base depth root).run.run [] = (outcome, [])) ∧
      (loadDatum s.surroundings base root = outcome ∨
        ∃ files p, files.length = maxIncludes ∧ s.Nested (base.join root) files p ∧
          loadDatum s.surroundings base root = .error (.tooDeep p)) ∧
      (∀ error, outcome = .error error → error.isNesting = false) ∧
      ∀ d, outcome = .ok d → d.marks = [] ∧ ∀ load file files,
        (Loading.expand s.surroundings base file load d).run.run files = (.ok d, files) := by
  have settled : s.outcome ((s.left []).ncard + 1) [] (base.join root) =
    s.content [] (base.join root) := rfl
  have contents := contents_of_outcome acyclic (.start _) (content_ne_tooDeep [] (base.join root))
  rw [settled] at contents
  refine ⟨s.content [] (base.join root), fun told => ⟨fun again => again.unique contents, ?_⟩,
    s.loading_ends grounded root, ?_, fun _ => contents.not_nesting,
    fun d fine => ?_⟩
  · rintro rfl
    exact contents
  · rw [s.loadDatum_eq grounded]
    by_cases deep : ∃ q, s.outcome maxIncludes [] (base.join root) = .error (.tooDeep q)
    · obtain ⟨q, failed⟩ := deep
      obtain ⟨files, long, nested⟩ := (Nested.start (base.join root)).of_tooDeep failed
      rw [List.length_nil, Nat.zero_add] at long
      exact .inr ⟨files, q, long, nested, failed⟩
    · exact .inl (outcome_eq_content fun q failed => deep ⟨q, failed⟩)
  · exact ⟨contents.unmarked fine, fun load file files =>
      Loading.expand_of_unmarked (contents.unmarked fine)⟩

/-- A file in another directory is included twice, and leads on from there. -/
def shelf : Setting := .ofTree (.ofList
  [("a.yaml", some "- !include sub/b.yaml\n- !include sub/b.yaml\n- k: !other\n    x: !env_var SIZE 5\n"),
    ("sub/b.yaml", some "v: !include c.yaml\n"), ("sub/c.yaml", some "!env_var SIZE\n")])
  [("SIZE", "7")]

/-- The variable is set, to a number. -/
def shelved : Datum :=
  .list [.table [(.text "v", .int 7)], .table [(.text "v", .int 7)],
    .table [(.text "k", .tagged "!other" (.table [(.text "x", .int 7)]))]]

theorem file_contents_shelf :
    (⟨""⟩ : Path).Grounded ∧ shelf.Acyclic ⟨"a.yaml"⟩ ∧
    ∃ d, shelf.Contents (.file ⟨"a.yaml"⟩) (.ok d) ∧ d.marks = [] ∧
      loadDatum shelf.surroundings ⟨""⟩ ⟨"a.yaml"⟩ = .ok d ∧ shelved.same d = true := by
  have grounded : (⟨""⟩ : Path).Grounded := .inl rfl
  have acyclic : shelf.Acyclic ⟨"a.yaml"⟩ :=
    acyclic_of_forward [⟨"a.yaml"⟩, ⟨"sub/b.yaml"⟩, ⟨"sub/c.yaml"⟩] List.mem_cons_self
      (by decide +kernel) (by decide +kernel)
  have fine : (loadDatum shelf.surroundings ⟨""⟩ ⟨"a.yaml"⟩).toOption.map shelved.same = some true := by
    decide +kernel
  have stays : (⟨""⟩ : Path).join ⟨"a.yaml"⟩ = ⟨"a.yaml"⟩ := Path.join_of_empty rfl _
  obtain ⟨outcome, contents, _, loaded, _, clean⟩ :=
    file_contents shelf grounded (stays.symm ▸ acyclic)
  rw [stays] at contents
  refine ⟨grounded, acyclic, ?_⟩
  rcases loaded with loaded | ⟨_, p, _, _, deep⟩
  · rw [loaded] at fine
    cases outcome with
    | error error => cases fine
    | ok d => exact ⟨d, (contents _).2 rfl, (clean d rfl).1, loaded, Option.some.inj fine⟩
  · rw [deep] at fine
    cases fine

end Setting
end Autopilot
