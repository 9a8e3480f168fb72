/-
# `SpeechConfig.Proofs.Generator.CallRecord` — what the stub has recorded

## What is proved, with every binder written out

For all settings, every format of models, every history and every first file system, let `turns` be
the orders of the history as they were carried out by one generator with the stub compiler, and
`record` what that stub has recorded behind them.  Then

    record = (turns.filter Turn.succeeded).map fun t => (t.target g).join "sentences.txt"

and every turn has its own part in the record: a turn that failed has none, and one that succeeded
has its corpus there, once (`Recorded`).

## Where the record comes from

It is written by the compiler alone, and a run hands on what its compiler wrote.  So the record by
itself would not betray a run that asked its compiler and kept the answer from the record.  What a
turn had to do with its compiler is said by `Uncalled` and `CallsOnce`, for all compilers at once:
the turn has one equation with the compiler bound last.  In a turn that succeeded the call was made
when the three files stood with their texts.

## What a history is

An order asks for a generation or a bundle, in a given directory or in that of the settings.
Between two orders the files may become any others (`Event.change`): what others do to them is
not looked into.  The record of a history is put together from the steps, and only ever grows.
-/
import SpeechConfig.Proofs.Generator.OneCall
import SpeechConfig.Proofs.Generator.Regeneration

namespace SpeechConfig.Generator

/-! ## Histories -/

/-- What can be asked of a generator. -/
inductive Order where
  | generate (r : Request) (dir : Path)
  | configure (r : Request) (dir : Path)
  | configureDefault (r : Request)

inductive Reply where
  | generation (gen : Generation)
  | bundle (b : Bundle)

namespace Order

def request : Order → Request
  | .generate r _ | .configure r _ | .configureDefault r => r

def target (g : Generator) : Order → Path
  | .generate _ dir | .configure _ dir => dir
  | .configureDefault _ => g.settings.workDirectory

/-- What of a generation an order asks for. -/
def reply : Order → Generation → Reply
  | .generate _ _, gen => .generation gen
  | .configure _ _, gen | .configureDefault _, gen => .bundle gen.bundle

def carryOut (g : Generator) (o : Order) (fs : FileSystem) : Outcome Reply :=
  match o with
  | .generate r dir => (g.generate r dir fs).map .generation
  | .configure r dir => (g.configure r dir fs).map .bundle
  | .configureDefault r => (g.configureDefault r fs).map .bundle

end Order

inductive Event where
  | order (o : Order)
  | change (files : FileSystem)

/-- The files as they are, and the corpora that the compiler has recorded, oldest first. -/
structure Usage where
  files : FileSystem
  record : List Path

def Usage.step (g : Generator) (u : Usage) : Event → Usage
  | .order o => ⟨(o.carryOut g u.files).files, u.record ++ (o.carryOut g u.files).record⟩
  | .change files => ⟨files, u.record⟩

def Usage.after (g : Generator) (u : Usage) (events : List Event) : Usage :=
  events.foldl (Usage.step g) u

/-- An order that was carried out, with the files it found. -/
structure Turn where
  order : Order
  before : FileSystem
  outcome : Outcome Reply

namespace Turn

def succeeded (t : Turn) : Bool :=
  t.outcome.result.isOk

def target (g : Generator) (t : Turn) : Path :=
  t.order.target g

def ofHistory (g : Generator) : Usage → List Event → List Turn
  | _, [] => []
  | u, .order o :: rest =>
    ⟨o, u.files, o.carryOut g u.files⟩ :: ofHistory g (u.step g (.order o)) rest
  | u, .change files :: rest => ofHistory g (u.step g (.change files)) rest

/-- What a turn has in the record, and what it had to do with its compiler: with none of them, had
it been another; or the one call for its corpus, made when the files of the generation that it
tells of stood in their directory. -/
inductive Recorded (s : Settings) (g : Generator) (t : Turn) : Prop
  | failed {e : Failure} : t.outcome.result = .error e → t.outcome.record = [] →
      Outcome.Uncalled (fun c => t.order.carryOut (new s c) t.before) → Recorded s g t
  | succeeded {gen : Generation} {files : FileSystem} :
      t.outcome.result = .ok (t.order.reply gen) →
      t.outcome.record = [(t.target g).join "sentences.txt"] →
      Outcome.CallsOnce (fun c => t.order.carryOut (new s c) t.before)
        ((t.target g).join "sentences.txt") files →
      Delivers s t.order.request (t.target g) t.before files gen → Recorded s g t

end Turn

variable {s : Settings} {g : Generator} {format : ModelFormat} {fs : FileSystem} {o : Order}

/-! ## One order -/

theorem Order.carryOut_eq (g : Generator) (o : Order) (fs : FileSystem) :
    o.carryOut g fs = (g.generate o.request (o.target g) fs).map o.reply := by
  cases o with
  | generate r dir => rfl
  | configure r dir => exact Outcome.map_map ..
  | configureDefault r => exact Outcome.map_map ..

theorem Order.target_new (s : Settings) (o : Order) (c c' : Compiler) :
    o.target (new s c) = o.target (new s c') := by
  cases o <;> rfl

theorem Order.carryOut_calls (s : Settings) (o : Order) (fs : FileSystem) (c : Compiler) :
    Outcome.Uncalled (fun c => o.carryOut (new s c) fs) ∨
      ∃ files, Outcome.CallsOnce (fun c => o.carryOut (new s c) fs)
        ((o.target (new s c)).join "sentences.txt") files := by
  have carried : (fun c => o.carryOut (new s c) fs) =
      fun c' => ((new s c').generate o.request (o.target (new s c)) fs).map o.reply := by
    funext c'
    rw [Order.carryOut_eq, target_new s o c' c]
  rw [carried]
  rcases generate_calls s o.request (o.target (new s c)) fs with uncalled | ⟨files, -, once⟩
  · exact .inl (uncalled.map o.reply)
  · exact .inr ⟨files, once.map o.reply⟩

theorem recorded_carryOut (s : Settings) (format : ModelFormat) (o : Order) (fs : FileSystem) :
    let g := new s (.stub format)
    Turn.Recorded s g ⟨o, fs, o.carryOut g fs⟩ := by
  intro g
  rcases Order.carryOut_calls s o fs (.stub format) with uncalled | ⟨files, once⟩
  · have ⟨e, files, ran⟩ := uncalled
    have outcome : o.carryOut g fs = ⟨.error e, files, [], [], []⟩ := ran (.stub format)
    exact .failed (congrArg Outcome.result outcome) (congrArg Outcome.record outcome) uncalled
  · obtain ⟨reply, ran⟩ := once.stub format
    have outcome : (g.generate o.request (o.target g) fs).map o.reply =
        ⟨.ok reply, files, [], [⟨(o.target g).join "sentences.txt", files⟩],
          [(o.target g).join "sentences.txt"]⟩ :=
      (Order.carryOut_eq g o fs).symm.trans ran
    obtain ⟨gen, ok, rfl⟩ := Outcome.map_result_eq_ok (congrArg Outcome.result outcome)
    have left : (g.generate o.request (o.target g) fs).files = files :=
      congrArg Outcome.files outcome
    exact .succeeded (congrArg Outcome.result ran) (congrArg Outcome.record ran) once
      (left ▸ delivers_of_ok ok)

theorem Turn.Recorded.corpora {t : Turn} (h : t.Recorded s g) :
    t.outcome.record =
      if t.succeeded then [(t.target g).join "sentences.txt"] else [] := by
  cases h with
  | failed result record _ => simp [Turn.succeeded, result, record, Except.isOk, Except.toBool]
  | succeeded result record _ _ =>
      simp [Turn.succeeded, result, record, Except.isOk, Except.toBool]

/-! ## A whole history -/

/-- The record grows by what the turns add, and by nothing else. -/
theorem Usage.record_after (g : Generator) : ∀ (events : List Event) (u : Usage),
    (u.after g events).record =
      u.record ++ (Turn.ofHistory g u events).flatMap fun t => t.outcome.record := by
  intro events
  induction events with
  | nil => intro u; simp [after, Turn.ofHistory]
  | cons event rest ih =>
      intro u
      have steps : u.after g (event :: rest) = (u.step g event).after g rest := rfl
      rw [steps, ih (u.step g event)]
      cases event with
      | order o =>
          rw [Turn.ofHistory, List.flatMap_cons, ← List.append_assoc]
          rfl
      | change files => rfl

theorem Turn.recorded_of_mem (s : Settings) (format : ModelFormat) :
    ∀ (events : List Event) (u : Usage), ∀ t ∈ ofHistory (new s (.stub format)) u events,
      t.Recorded s (new s (.stub format)) := by
  intro events
  induction events with
  | nil => intro u t h; exact absurd h List.not_mem_nil
  | cons event rest ih =>
      intro u t h
      cases event with
      | order o =>
          rw [ofHistory] at h
          rcases List.mem_cons.mp h with rfl | h
          · exact recorded_carryOut s format o u.files
          · exact ih _ t h
      | change files => exact ih _ t h

theorem corpora_of_recorded : ∀ {turns : List Turn}, (∀ t ∈ turns, t.Recorded s g) →
    (turns.flatMap fun t => t.outcome.record) =
      (turns.filter Turn.succeeded).map fun t => (t.target g).join "sentences.txt" := by
  intro turns
  induction turns with
  | nil => intro _; rfl
  | cons t rest ih =>
      intro recorded
      rw [List.flatMap_cons, (recorded t List.mem_cons_self).corpora,
        ih fun t h => recorded t (List.mem_cons_of_mem _ h), List.filter_cons]
      split
      · rfl
      · rfl

/-- The stub has recorded the corpora of the orders that succeeded, each once and in their order;
no other order called its compiler, and each of these did so once, when its three files stood. -/
theorem stub_called_once_per_success (s : Settings) (format : ModelFormat) (events : List Event)
    (fs : FileSystem) :
    let g := new s (.stub format)
    let start : Usage := ⟨fs, []⟩
    let turns := Turn.ofHistory g start events
    let record := (start.after g events).record
    record = (turns.filter Turn.succeeded).map (fun t => (t.target g).join "sentences.txt") ∧
      record = (turns.flatMap fun t => t.outcome.record) ∧ ∀ t ∈ turns, t.Recorded s g := by
  intro g start turns record
  have recorded : ∀ t ∈ turns, t.Recorded s g := Turn.recorded_of_mem s format events start
  have grown : record = turns.flatMap fun t => t.outcome.record :=
    (Usage.record_after g events start).trans (List.nil_append _)
  exact ⟨grown.trans (corpora_of_recorded recorded), grown, recorded⟩

end SpeechConfig.Generator
