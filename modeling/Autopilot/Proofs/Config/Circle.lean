import Autopilot.Proofs.Config.Tree

/-!
Files that include each other in circles. Loading ends whatever the files include, since each file
that is entered makes the paths longer or is found to be one that is still being loaded. It is found
by the components of its path: a path with the components of one that is still being loaded leads to
the same file, and of two paths without dots only those lead to the same file. A path that takes a
detour over dots leads to the file too, and is not found.
-/

namespace Autopilot

namespace Setting

/-- Which file a path leads to, where there are no links. -/
structure Linkless (s : Setting) {File : Type} (target : Path → Option File) : Prop where
  isSome_target : ∀ {p : Path} {text : String}, s.read p = .ok text → (target p).isSome
  target_of_same : ∀ {p q : Path} {f g : File}, p.same q = true → target p = some f →
    target q = some g → f = g
  same_of_target : ∀ {p q : Path} {f : File}, p.Plain → q.Plain → p.isAbsolute = q.isAbsolute →
    target p = some f → target q = some f → p.same q = true

/-- Loading comes to a path while files are being loaded, innermost first: all marks before the one
that leads to the path have been settled. -/
inductive Arrives (s : Setting) (root : Path) : List Path → Path → Prop
  | start : Arrives s root [] root
  | inward {files : List Path} {p : Path} {d : Datum} {before after : List Mark} {name : String}
      (outer : Arrives s root files p) (fresh : (files.any fun file => file.same p) = false)
      (found : s.document p = .ok d) (listed : d.marks = before ++ .file (.text name) :: after)
      (settled : ∀ mark ∈ before, ∃ value,
        s.outcomeOf (s.content (p :: files)) p mark = .ok value) :
    Arrives s root (p :: files) (p.directory.join ⟨name⟩)

variable {s : Setting} {root : Path}

theorem Arrives.readable {files : List Path} {q : Path} (arrived : s.Arrives root files q) :
    ∀ p ∈ files, ∃ text, s.read p = .ok text := by
  induction arrived with
  | start => exact List.forall_mem_nil _
  | inward outer fresh found listed settled ih =>
    obtain ⟨text, read, _⟩ := read_of_document found
    exact List.forall_mem_cons.2 ⟨⟨text, read⟩, ih⟩

/-- What fails where loading comes to is what fails as a whole. -/
theorem Arrives.content_eq {files : List Path} {q : Path} (arrived : s.Arrives root files q)
    {error : LoadError} (failed : s.content files q = .error error) :
    s.content [] root = .error error := by
  induction arrived with
  | start => exact failed
  | @inward files p d before after name outer fresh found listed settled ih =>
    apply ih
    rw [Setting.content_eq, fresh, if_neg Bool.false_ne_true, found]
    choose! value values using settled
    exact Datum.settle_of_failure listed values failed

/-- A circle is found where loading comes to it. -/
theorem Arrives.of_circular {files : List Path} {p q : Path} (arrived : s.Arrives root files p)
    {depth : Nat} (failed : s.outcome depth files p = .error (.circular q)) :
    ∃ inner, s.Arrives root inner q ∧ ∃ file ∈ inner, file.same q = true := by
  induction depth generalizing files p with
  | zero => cases failed
  | succ depth ih =>
    rcases outcome_nesting rfl failed with ⟨again, same⟩ |
      ⟨d, before, after, name, value, fresh, found, listed, values, fails⟩
    · cases same
      exact ⟨files, arrived, List.any_eq_true.1 again⟩
    · exact ih (.inward arrived fresh found listed fun mark first =>
        ⟨value mark, outcomeOf_content (values mark first)⟩) fails

/-- Loading ends with the content of the root file, at every depth from some one on. A path is reported
as a circle where loading comes to it and has come to a path with the same components that is still
being loaded, and nowhere else; the reported path then leads to the file of that one, if to any. A path
that leads to a file which is still being loaded is reported if neither it nor the path of that
file has dots, and both are absolute or both are relative. -/
theorem loading_circles (s : Setting) {File : Type} {target : Path → Option File}
    (linkless : s.Linkless target) {base : Path} (grounded : base.Grounded) (root : Path) :
    ∃ outcome, (∀ q, outcome ≠ .error (.tooDeep q)) ∧
      (∃ enough, ∀ depth, enough ≤ depth →
        (Loading.file s.surroundings base depth root).run.run [] = (outcome, [])) ∧
      (∀ q, outcome = .error (.circular q) ↔
        ∃ files, s.Arrives (base.join root) files q ∧ ∃ p ∈ files, p.same q = true) ∧
      ∀ files q, s.Arrives (base.join root) files q → ∀ p ∈ files, ∃ f, target p = some f ∧
        (p.same q = true → ∀ g, target q = some g → f = g) ∧
        (target q = some f → p.Plain → q.Plain → p.isAbsolute = q.isAbsolute →
          outcome = .error (.circular q)) := by
  have report {files : List Path} {q : Path} (arrived : s.Arrives (base.join root) files q)
      {p : Path} (member : p ∈ files) (same : p.same q = true) :
      s.content [] (base.join root) = .error (.circular q) := by
    apply arrived.content_eq
    rw [content_eq, List.any_eq_true.2 ⟨p, member, same⟩, if_pos rfl]
  refine ⟨s.content [] (base.join root), content_ne_tooDeep _ _, s.loading_ends grounded root,
    fun q => ⟨fun failed => Arrives.of_circular .start failed, ?_⟩, ?_⟩
  · rintro ⟨files, arrived, p, member, same⟩
    exact report arrived member same
  · intro files q arrived p member
    obtain ⟨text, read⟩ := arrived.readable p member
    obtain ⟨f, led⟩ := Option.isSome_iff_exists.1 (linkless.isSome_target read)
    exact ⟨f, led, fun same g too => linkless.target_of_same same led too,
      fun too plain also kind => report arrived member (linkless.same_of_target plain also kind led too)⟩

theorem linkless_ofTree (t : FileTree) (scalars : List (String × String)) :
    (ofTree t scalars).Linkless t.target where
  isSome_target read := by
    obtain ⟨_, names, led, _⟩ := FileTree.read_of_ok read
    unfold FileTree.target
    rw [led]
    rfl
  target_of_same := FileTree.target_of_same
  same_of_target plain also _ := FileTree.same_of_target plain also

/-- The names in the marks of a text. -/
def names? (text : String) : Option (List (Option String)) :=
  (Yaml.parse? text).map fun d => d.marks.map Mark.name?

theorem single_of_names {text name : String} (named : names? text = some [some name]) :
    ∃ d, Yaml.parse? text = some d ∧ d.marks = [.file (.text name)] := by
  unfold names? at named
  obtain ⟨d, parsed, marks⟩ := Option.map_eq_some_iff.1 named
  obtain ⟨mark, listed, name⟩ := List.map_eq_singleton_iff.1 marks
  rw [Mark.name?_eq_some_iff] at name
  exact ⟨d, parsed, name ▸ listed⟩

/-- Two files that include each other. -/
def mutualTree : FileTree :=
  .ofList [("a.yaml", some "!include b.yaml\n"), ("b.yaml", some "!include a.yaml\n")]

theorem loading_circles_mutualTree :
    (ofTree mutualTree []).Linkless mutualTree.target ∧ (⟨""⟩ : Path).Grounded ∧
    ∃ enough, ∀ depth, enough ≤ depth →
      (Loading.file (ofTree mutualTree []).surroundings ⟨""⟩ depth ⟨"a.yaml"⟩).run.run [] =
        (.error (.circular ⟨"a.yaml"⟩), []) := by
  have linkless := linkless_ofTree mutualTree []
  have toward : names? "!include b.yaml\n" = some [some "b.yaml"] := by decide +kernel
  have back : names? "!include a.yaml\n" = some [some "a.yaml"] := by decide +kernel
  obtain ⟨first, parsed, marks⟩ := single_of_names toward
  obtain ⟨second, parsed', marks'⟩ := single_of_names back
  have outer : (ofTree mutualTree []).document ⟨"a.yaml"⟩ = .ok first := document_of_read rfl parsed
  have inner : (ofTree mutualTree []).document ⟨"b.yaml"⟩ = .ok second := document_of_read rfl parsed'
  have inside : (ofTree mutualTree []).Arrives ⟨"a.yaml"⟩ [⟨"a.yaml"⟩] ⟨"b.yaml"⟩ := by
    have arrived := Arrives.start.inward rfl outer marks (List.forall_mem_nil _)
    exact arrived
  have again : (ofTree mutualTree []).Arrives ⟨"a.yaml"⟩ [⟨"b.yaml"⟩, ⟨"a.yaml"⟩] ⟨"a.yaml"⟩ := by
    have arrived := inside.inward (by decide) inner marks' (List.forall_mem_nil _)
    exact arrived
  have plain : Path.Plain ⟨"a.yaml"⟩ := by decide
  obtain ⟨outcome, _, ends, _, reports⟩ :=
    loading_circles (ofTree mutualTree []) linkless (.inl rfl : (⟨""⟩ : Path).Grounded) ⟨"a.yaml"⟩
  obtain ⟨f, led, _, report⟩ :=
    reports _ _ again ⟨"a.yaml"⟩ (List.mem_cons_of_mem _ List.mem_cons_self)
  rw [report led plain plain rfl] at ends
  exact ⟨linkless, .inl rfl, ends⟩

/-! ## A detour -/

/-- A file that includes itself by way of the directory beside it. -/
def detour : FileTree where
  files := [(["a.yaml"], some "!include sub/../a.yaml\n"), (["sub", "b.yaml"], some "")]

/-- The directory of the file after some detours. -/
def way : Nat → Path
  | 0 => ⟨""⟩
  | n + 1 => (way n).join ⟨"sub/.."⟩

/-- The file after some detours. -/
def spot (n : Nat) : Path := (way n).join ⟨"a.yaml"⟩

theorem way_relative (n : Nat) : (way n).isAbsolute = false := by
  induction n with
  | zero => rfl
  | succ n ih => exact Path.isAbsolute_join ih rfl

theorem way_end (n : Nat) : ∃ front, (way (n + 1)).text = front ++ "sub/.." := by
  unfold way Path.join
  rw [if_neg (by decide)]
  split
  · exact ⟨_, rfl⟩
  · exact ⟨_, rfl⟩

theorem join_way (n : Nat) {q : Path} (relative : q.isAbsolute = false) :
    (way (n + 1)).join q = ⟨(way (n + 1)).text ++ "/" ++ q.text⟩ := by
  obtain ⟨front, text⟩ := way_end n
  unfold Path.join
  rw [relative, if_neg Bool.false_ne_true, text, if_neg]
  simp

/-- The detour is taken once more. -/
theorem way_detour (n : Nat) : (way n).join ⟨"sub/../a.yaml"⟩ = spot (n + 1) := by
  cases n with
  | zero => rfl
  | succ n =>
    have text : (way (n + 1 + 1)).text = (way (n + 1)).text ++ "/" ++ "sub/.." :=
      congrArg Path.text (join_way n (q := ⟨"sub/.."⟩) rfl)
    unfold spot
    rw [join_way n rfl, join_way (n + 1) rfl, text]
    congr 1
    simp only [String.append_assoc]
    rfl

theorem steps_way (n : Nat) : (way n).steps.length = 2 * n := by
  induction n with
  | zero => rfl
  | succ n ih =>
    rw [way, Path.steps_join _ rfl, List.length_append, ih]
    rfl

theorem steps_spot (n : Nat) : (spot n).steps.length = 2 * n + 1 := by
  rw [spot, Path.steps_join _ rfl, List.length_append, steps_way]
  rfl

theorem directory_spot (n : Nat) : (spot n).directory = way n := by
  cases n with
  | zero => rfl
  | succ n =>
    unfold Path.directory
    cases found : (spot (n + 1)).parent? with
    | none =>
      have relative : (spot (n + 1)).isAbsolute = false := Path.isAbsolute_join (way_relative _) rfl
      have many := steps_spot (n + 1)
      rw [Path.steps_of_orphan relative found] at many
      cases many
    | some dir =>
      obtain ⟨front, text⟩ := way_end n
      have same := Path.parent?_eq found
      unfold spot at same
      rw [join_way n rfl, text] at same
      have trimmed : dir.text.toList = front.toList ++ "sub/..".toList := by
        simpa [Path.trimEnd, List.dropWhile] using same
      have whole : dir.text = (way (n + 1)).text := by
        rw [text, ← String.toList_inj, String.toList_append, trimmed]
      exact congrArg Path.mk whole

theorem spot_injective {m n : Nat} (same : (spot m).same (spot n) = true) : m = n := by
  have steps := congrArg List.length (Path.steps_of_same same).2
  rw [steps_spot, steps_spot] at steps
  omega

theorem names_detour : names? "!include sub/../a.yaml\n" = some [some "sub/../a.yaml"] := by
  decide +kernel

theorem marks_detour {p : Path} {d : Datum} (found : (ofTree detour []).document p = .ok d) :
    ∀ mark ∈ d.marks, mark.name? = some "sub/../a.yaml" := by
  obtain ⟨text, read, parsed⟩ := read_of_document found
  obtain ⟨_, names, _, _, file⟩ := FileTree.read_of_ok read
  have listed : names? text = some (d.marks.map Mark.name?) :=
    congrArg (Option.map fun d : Datum => d.marks.map Mark.name?) parsed
  have named : ∀ name ∈ d.marks.map Mark.name?, name = some "sub/../a.yaml" := by
    unfold FileTree.file? detour at file
    rw [List.lookup_cons] at file
    split at file
    · cases file
      rw [names_detour] at listed
      rw [← Option.some.inj listed]
      simp
    · rw [List.lookup_cons] at file
      split at file
      · cases file
        have empty : names? "" = some [] := by decide +kernel
        rw [empty] at listed
        rw [← Option.some.inj listed]
        exact List.forall_mem_nil _
      · cases file
  exact fun mark member => named _ (List.mem_map_of_mem member)

/-- Loading comes to the file in circles that are never found, each of them with a longer path. -/
theorem Arrives.of_detour {files : List Path} {q : Path}
    (arrived : (ofTree detour []).Arrives ⟨"a.yaml"⟩ files q) :
    ∃ n, q = spot n ∧ ∀ p ∈ files, ∃ m < n, p = spot m := by
  induction arrived with
  | start => exact ⟨0, rfl, List.forall_mem_nil _⟩
  | @inward files p d before after name outer fresh found listed settled ih =>
    obtain ⟨n, rfl, earlier⟩ := ih
    have named := marks_detour found (.file (.text name)) (listed ▸ List.mem_append_cons_self)
    cases named
    refine ⟨n + 1, ?_, List.forall_mem_cons.2 ⟨⟨n, Nat.lt_succ_self n, rfl⟩, fun p member => ?_⟩⟩
    · rw [directory_spot]
      exact way_detour n
    · obtain ⟨m, before, same⟩ := earlier p member
      exact ⟨m, Nat.lt_succ_of_lt before, same⟩

/-- Coming to a file that is still being loaded is not reported: the path over the directory beside it
leads to the file, and loading comes to it first of all. -/
theorem detour_unnoticed :
    detour.target ⟨"a.yaml"⟩ = some ["a.yaml"] ∧ detour.target ⟨"sub/../a.yaml"⟩ = some ["a.yaml"] ∧
    (ofTree detour []).Arrives ⟨"a.yaml"⟩ [⟨"a.yaml"⟩] ⟨"sub/../a.yaml"⟩ ∧
    ∀ q, loadDatum (ofTree detour []).surroundings ⟨""⟩ ⟨"a.yaml"⟩ ≠ .error (.circular q) := by
  refine ⟨by decide, by decide, ?_, fun q failed => ?_⟩
  · obtain ⟨d, parsed, listed⟩ := single_of_names names_detour
    have found : (ofTree detour []).document ⟨"a.yaml"⟩ = .ok d := document_of_read rfl parsed
    have arrived := Arrives.start.inward rfl found listed (List.forall_mem_nil _)
    exact arrived
  · rw [loadDatum_eq _ (.inl rfl)] at failed
    obtain ⟨files, arrived, p, member, same⟩ := Arrives.of_circular .start failed
    obtain ⟨n, rfl, earlier⟩ := arrived.of_detour
    obtain ⟨m, before, rfl⟩ := earlier p member
    exact absurd (spot_injective same) (Nat.ne_of_lt before)

end Setting
end Autopilot
