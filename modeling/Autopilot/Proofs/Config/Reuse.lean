import Autopilot.Proofs.Config.RootFile

/-!
Loaders that are used more than once. While a file is being loaded, it is on the list of those that are,
and it is taken off the list again however its loading ends: a part of the loading finds the list as it
was before, at every depth, if all that it is made of do. So nothing that was loaded before, or could not
be, can be told from what a loader answers.
-/

namespace Autopilot

namespace Loading

variable {m : Type → Type} [Monad m]

/-- Whatever the outcome, it is these files that are being loaded in the end. -/
def EndsWith {α : Type} (files : List Path) (run : m (Except LoadError α × List Path)) : Prop :=
  ∃ outcome : m (Except LoadError α), run = (do return (← outcome, files))

/-- A part of the loading leaves the files that are being loaded as they are. -/
def Keeps {α : Type} (part : Loading m α) (files : List Path) : Prop :=
  EndsWith files (part.run.run files)

section Keeps

variable [LawfulMonad m] {α β : Type} {files : List Path}

theorem endsWith_pure (outcome : Except LoadError α) :
    EndsWith files (pure (outcome, files) : m (Except LoadError α × List Path)) :=
  ⟨pure outcome, by rw [pure_bind]⟩

/-- What is done before may come to anything. -/
theorem endsWith_bind {call : m α} {next : α → m (Except LoadError β × List Path)}
    (later : ∀ answer, EndsWith files (next answer)) : EndsWith files (call >>= next) := by
  choose outcomes ends using later
  refine ⟨call >>= outcomes, ?_⟩
  rw [bind_assoc]
  exact bind_congr ends

theorem EndsWith.eq {run : m (Except LoadError α × List Path)} (ends : EndsWith files run) :
    run = (do
      let (outcome, _) ← run
      return (outcome, files)) := by
  obtain ⟨outcome, rfl⟩ := ends
  rw [bind_assoc]
  exact bind_congr fun answer => by rw [pure_bind]

theorem keeps_pure (value : α) : Keeps (pure value : Loading m α) files := endsWith_pure (.ok value)

theorem keeps_throw (error : LoadError) : Keeps (throw error : Loading m α) files :=
  endsWith_pure (.error error)

theorem keeps_lift (call : m α) : Keeps (ExceptT.lift (StateT.lift call) : Loading m α) files := by
  have called := lift_bind_run call pure files
  rw [bind_pure] at called
  unfold Keeps
  rw [called]
  exact endsWith_bind fun answer => keeps_pure answer

theorem Keeps.bind {part : Loading m α} {next : α → Loading m β} (keeps : Keeps part files)
    (later : ∀ value, Keeps (next value) files) : Keeps (part >>= next) files := by
  obtain ⟨outcome, kept⟩ := keeps
  unfold Keeps
  rw [bind_run, kept, bind_assoc]
  refine endsWith_bind fun answer => ?_
  rw [pure_bind]
  cases answer with
  | ok value => exact later value
  | error error => exact endsWith_pure _

variable (surroundings : Surroundings m) (base p : Path)

theorem fromVariable_keeps (named : Datum) : Keeps (fromVariable surroundings named) files := by
  unfold fromVariable
  cases named with
  | text text =>
    dsimp only
    split
    · refine (keeps_lift _).bind fun found => ?_
      split
      · exact keeps_pure _
      · exact keeps_throw _
    · refine (keeps_pure none).bind fun found => ?_
      split
      · exact keeps_pure _
      · exact keeps_throw _
  | _ => exact keeps_throw _

theorem included_keeps (named : Datum) : Keeps (included base p named : Loading m Path) files := by
  unfold included
  cases named with
  | text text => exact keeps_pure _
  | _ => exact keeps_throw _

section Expand

variable {load : Path → Loading m Datum}

mutual

/-- Expanding keeps what is being loaded if loading the files that are included does. -/
theorem expand_keeps (loads : ∀ path, Keeps (load path) files) :
    ∀ d : Datum, Keeps (expand surroundings base p load d) files
  | .null | .bool _ | .int _ | .real _ | .text _ => keeps_pure _
  | .list items => by
    rw [expand]
    exact (expandItems_keeps loads items).bind fun _ => keeps_pure _
  | .table rows => by
    rw [expand]
    exact (expandRows_keeps loads rows).bind fun _ => keeps_pure _
  | .tagged tag content => by
    rw [expand]
    split
    · exact (included_keeps base p content).bind loads
    · split
      · exact fromVariable_keeps surroundings content
      · exact (expand_keeps loads content).bind fun _ => keeps_pure _

theorem expandItems_keeps (loads : ∀ path, Keeps (load path) files) :
    ∀ items : List Datum, Keeps (expandItems surroundings base p load items) files
  | [] => keeps_pure _
  | item :: rest => by
    rw [expandItems]
    exact (expand_keeps loads item).bind fun _ =>
      (expandItems_keeps loads rest).bind fun _ => keeps_pure _

theorem expandRows_keeps (loads : ∀ path, Keeps (load path) files) :
    ∀ rows : List (Datum × Datum), Keeps (expandRows surroundings base p load rows) files
  | [] => keeps_pure _
  | (key, value) :: rest => by
    rw [expandRows]
    exact (expand_keeps loads value).bind fun _ =>
      (expandRows_keeps loads rest).bind fun _ => keeps_pure _

end

end Expand

/-- A file that is entered and left was not on the list, and nothing else is taken off it. -/
theorem keeps_entered {part : Loading m Datum}
    (fresh : files.any (fun file => file.same p) = false) (keeps : Keeps part (p :: files)) :
    Keeps (do modify (p :: ·); leaving p part) files := by
  obtain ⟨outcome, kept⟩ := keeps
  unfold Keeps
  rw [entered_run, kept, bind_assoc]
  refine endsWith_bind fun answer => ?_
  rw [pure_bind]
  dsimp only
  rw [filter_cons_of_fresh fresh]
  exact endsWith_pure answer

/-- What is made of a text that comes from a file. -/
def text (depth : Nat) (content : String) : Loading m Datum :=
  match surroundings.parse content with
  | none => throw (.malformed p)
  | some d => expand surroundings base p (file surroundings base depth) d

/-- Making something of a text keeps what is being loaded if loading files does. -/
theorem text_keeps_of {depth : Nat} (loads : ∀ path, Keeps (file surroundings base depth path) files)
    (content : String) : Keeps (text surroundings base p depth content) files := by
  unfold text
  split
  · exact keeps_throw _
  · exact expand_keeps surroundings base p loads _

/-- Loading a file keeps what is being loaded, at every depth: a file on the list or one that cannot be
read is not entered, and one that is entered is left. -/
theorem file_keeps (depth : Nat) (files : List Path) (path : Path) :
    Keeps (file surroundings base depth path) files := by
  induction depth generalizing files path with
  | zero => exact keeps_throw _
  | succ depth ih =>
    unfold Keeps
    rw [file_run_of]
    cases fresh : files.any fun file => file.same (base.join path) with
    | true =>
      rw [if_pos rfl]
      exact endsWith_pure _
    | false =>
      rw [if_neg Bool.false_ne_true]
      refine endsWith_bind fun answer => ?_
      cases answer with
      | error fault => exact endsWith_pure _
      | ok content =>
        exact keeps_entered _ fresh (text_keeps_of surroundings base _ (ih (_ :: files)) content)

theorem text_keeps (depth : Nat) (files : List Path) (content : String) :
    Keeps (text surroundings base p depth content) files :=
  text_keeps_of surroundings base p (file_keeps surroundings base depth files) content

end Keeps

end Loading

/-! ## Loaders -/

/-- What a loader is asked for: a file, or what is made of a text that comes from one. -/
inductive LoaderCall where
  | file (path : Path)
  | text (source : Path) (content : String)

/-- Where a loader takes paths from, and the files that it is loading. -/
structure Loader where
  base : Path
  files : List Path := []

namespace Loader

variable {m : Type → Type} [Monad m] (surroundings : Surroundings m) (depth : Nat)

def loading (base : Path) : LoaderCall → Loading m Datum
  | .file path => Loading.file surroundings base depth path
  | .text source content => Loading.text surroundings base source depth content

def answer (loader : Loader) (call : LoaderCall) : m (Except LoadError Datum × Loader) := do
  let (outcome, files) ← (loading surroundings depth loader.base call).run.run loader.files
  return (outcome, { loader with files })

/-- One call after another, with the same loader. -/
def answers (loader : Loader) : List LoaderCall → m (List (Except LoadError Datum) × Loader)
  | [] => return ([], loader)
  | call :: rest => do
    let (outcome, loader) ← loader.answer surroundings depth call
    let (outcomes, loader) ← loader.answers rest
    return (outcome :: outcomes, loader)

/-- The outcome of a call, from a loader that is not used again. -/
def outcome (loader : Loader) (call : LoaderCall) : m (Except LoadError Datum) := do
  return (← loader.answer surroundings depth call).1

variable [LawfulMonad m]

theorem answer_keeps (loader : Loader) (call : LoaderCall) :
    loader.answer surroundings depth call = (do
      return (← loader.outcome surroundings depth call, loader)) := by
  have keeps : (loading surroundings depth loader.base call).Keeps loader.files := by
    cases call with
    | file path => exact Loading.file_keeps surroundings loader.base depth loader.files path
    | text source content =>
      exact Loading.text_keeps surroundings loader.base source depth loader.files content
  unfold outcome answer
  rw [keeps.eq]
  simp only [bind_assoc, pure_bind]

/-- A loader that is used again and again answers each call as if it were the first one. -/
theorem answers_eq (loader : Loader) (calls : List LoaderCall) :
    loader.answers surroundings depth calls = (do
      return (← calls.mapM (loader.outcome surroundings depth), loader)) := by
  induction calls with
  | nil => rw [answers, List.mapM_nil, pure_bind]
  | cons call rest ih =>
    rw [answers, List.mapM_cons, answer_keeps, bind_assoc, bind_assoc]
    refine bind_congr fun outcome => ?_
    rw [pure_bind]
    dsimp only
    rw [ih, bind_assoc, bind_assoc]
    exact bind_congr fun outcomes => by rw [pure_bind, pure_bind]

/-- A loader is after a call as it was before it, whatever it is asked for, whatever else it is loading,
and whatever the call comes to at whatever depth. So it answers a history of calls, failed or not, like
as many loaders that are used once; a new one that has a history answers the next call like a new one
that has none. Where files and variables stay as they are, that is the same answer. -/
theorem answers_reused :
    (∀ (loader : Loader) (call : LoaderCall), loader.answer surroundings depth call = (do
      let (outcome, _) ← loader.answer surroundings depth call
      return (outcome, loader))) ∧
    (∀ (loader : Loader) (calls : List LoaderCall), loader.answers surroundings depth calls = (do
      let outcomes ← calls.mapM (loader.outcome surroundings depth)
      return (outcomes, loader))) ∧
    (∀ (base : Path) (earlier : List LoaderCall) (path : Path), (do
        let (_, loader) ← (Loader.mk base []).answers surroundings depth earlier
        loader.outcome surroundings depth (.file path)) = (do
        let _ ← (Loader.mk base []).answers surroundings depth earlier
        (Loader.mk base []).outcome surroundings depth (.file path))) ∧
    (∀ base path : Path, (Loader.mk base []).outcome surroundings maxIncludes (.file path) =
      loadDatum surroundings base path) ∧
    ∀ (still : Surroundings Id) (base : Path) (earlier : List LoaderCall) (path : Path),
      ((Loader.mk base []).answers still depth earlier).2.answer still depth (.file path) =
        (Loader.mk base []).answer still depth (.file path) := by
  refine ⟨fun loader call => ?_, fun loader calls => loader.answers_eq surroundings depth calls,
    fun base earlier path => ?_, fun base path => ?_, fun still base earlier path => ?_⟩
  · rw [answer_keeps]
    simp only [bind_assoc, pure_bind]
  · rw [answers_eq]
    simp only [bind_assoc, pure_bind]
  · unfold outcome answer loadDatum
    simp only [bind_assoc, pure_bind]
    rfl
  · rw [answers_eq]
    rfl

/-- A file that includes itself, one that includes a file that is not there, and a list. -/
def tangledTree : FileTree :=
  .ofList [("loop.yaml", some "!include loop.yaml\n"), ("gap.yaml", some "[!include none.yaml]\n"),
    ("list.yaml", some "[fine]\n")]

/-- The text of what a file came to, if that is a list of one text, or what went wrong. -/
def toldBy : Except LoadError Datum → String
  | .ok (.list [.text text]) => text
  | .ok _ => ""
  | .error error => error.message

/-- After calls that failed inside files, a loader still loads a file that is fine. -/
theorem answers_reused_tangledTree :
    LawfulMonad Id ∧
    ((Loader.mk ⟨""⟩ []).answers (Config.ofTree tangledTree) 3
        [.file ⟨"loop.yaml"⟩, .file ⟨"gap.yaml"⟩, .text ⟨"note.yaml"⟩ "!env_var NONE"]).1.map toldBy =
      ["circular include detected: loop.yaml",
        "failed to read file none.yaml: No such file or directory (os error 2)",
        "environment variable 'NONE' not set"] ∧
    toldBy (((Loader.mk ⟨""⟩ []).answers (Config.ofTree tangledTree) 3
        [.file ⟨"loop.yaml"⟩, .file ⟨"gap.yaml"⟩, .text ⟨"note.yaml"⟩ "!env_var NONE"]).2.answer
        (Config.ofTree tangledTree) 3 (.file ⟨"list.yaml"⟩)).1 = "fine" := by
  obtain ⟨_, _, _, _, same⟩ := answers_reused (Config.ofTree tangledTree) 3
  refine ⟨inferInstance, by decide +kernel, ?_⟩
  rw [same]
  decide +kernel

end Loader

end Autopilot
