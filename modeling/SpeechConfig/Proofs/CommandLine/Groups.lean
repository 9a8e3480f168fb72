/-
# `SpeechConfig.Proofs.CommandLine.Groups` — a command line is a list of groups

## What is proved, with every binder written out

For every list of arguments:

    read arguments = .done a  ↔  ∃ groups, GroupedAs arguments groups ∧ a.Records groups
    read arguments = .fault f ↔  (∃ rest, ReachedIn arguments rest ∧ IllFormed rest f) ∨
                                 f = .noRequest ∧ ∃ groups, GroupedAs arguments groups ∧
                                   ¬ Suffices groups
    read arguments = .help    ↔  a call for help stands where a group should begin

and two lists whose groups are the same but for their order are read alike, as long as the
groups of one parameter keep their order.

## A value is never looked at

`GroupedAs` cuts the arguments from the left.  A parameter takes the argument behind it, whatever
that is, so whether an argument is a flag depends on all that stands before it, and no condition
on single arguments could say what is accepted.  `ReachedIn arguments rest` says that `rest`
begins where a group should begin.

## Drafts are seen through their fields

Reading changes one field of the draft for each group.  `Draft.isOn` and `Draft.value?` name the
fields by what sets them: one law for a group (`isOn_take`, `value?_take`) serves all of them, and
the run is an induction on the groups (`isOn_foldl`, `value?_foldl`).
-/
import SpeechConfig.CommandLine.Arguments

namespace SpeechConfig.CommandLine

/-! ## Groups -/

/-- An option that stands alone. -/
inductive Switch where
  | dryRun
  | strict
  | compilerOutput
  | verbose
  | printDefaultSettings
deriving DecidableEq, Repr

/-- An option with the argument behind it. -/
inductive Parameter where
  | request
  | settings
  | workDir
deriving DecidableEq, Repr

def Switch.spellings : Switch → List String
  | .dryRun => ["--dry-run"]
  | .strict => ["--strict"]
  | .compilerOutput => ["--compiler-output"]
  | .verbose => ["--verbose", "-v"]
  | .printDefaultSettings => ["--print-default-settings"]

def Parameter.name : Parameter → String
  | .request => "--request"
  | .settings => "--settings"
  | .workDir => "--work-dir"

def Parameter.spellings : Parameter → List String
  | .request => ["--request", "-r"]
  | .settings => ["--settings"]
  | .workDir => ["--work-dir"]

/-- A switch, or a parameter with its value. -/
inductive Group where
  | switch (s : Switch)
  | value (p : Parameter) (text : String)
deriving DecidableEq, Repr

/-- The arguments are these groups, one behind the other. -/
inductive GroupedAs : List String → List Group → Prop
  | nil : GroupedAs [] []
  | switch {s : Switch} {flag : String} {rest : List String} {groups : List Group} :
      flag ∈ s.spellings → GroupedAs rest groups → GroupedAs (flag :: rest) (.switch s :: groups)
  | value {p : Parameter} {flag text : String} {rest : List String} {groups : List Group} :
      flag ∈ p.spellings → GroupedAs rest groups →
      GroupedAs (flag :: text :: rest) (.value p text :: groups)

/-- Behind some groups, `rest` is left of the arguments. -/
def ReachedIn (arguments rest : List String) : Prop :=
  ∃ front groups, arguments = front ++ rest ∧ GroupedAs front groups

/-- No group begins here, and `f` says why: the first argument is no flag, or it is a parameter
without a value. -/
inductive IllFormed : List String → UsageFault → Prop
  | unknown {argument : String} {rest : List String} :
      (∀ s : Switch, argument ∉ s.spellings) → (∀ p : Parameter, argument ∉ p.spellings) →
      asksForHelp argument = false → IllFormed (argument :: rest) (.unknown argument)
  | missing {p : Parameter} {flag : String} : flag ∈ p.spellings →
      IllFormed [flag] (.missingValue p.name)

def valuesOf (p : Parameter) (groups : List Group) : List String :=
  groups.filterMap fun
    | .switch _ => none
    | .value q text => if q = p then some text else none

def lastValue? (p : Parameter) (groups : List Group) : Option Path :=
  (valuesOf p groups).getLast?.map Path.mk

/-- There is something to do: the defaults are to be printed, or there is a request. -/
def Suffices (groups : List Group) : Prop :=
  .switch .printDefaultSettings ∈ groups ∨ ∃ text, .value .request text ∈ groups

/-- What the groups ask for: what is switched on somewhere, and the last value of every
parameter; to print the defaults comes before any request. -/
structure Arguments.Records (a : Arguments) (groups : List Group) : Prop where
  dryRun : a.dryRun = true ↔ .switch .dryRun ∈ groups
  strict : a.strict = true ↔ .switch .strict ∈ groups
  compilerOutput : a.compilerOutput = true ↔ .switch .compilerOutput ∈ groups
  verbose : a.verbose = true ↔ .switch .verbose ∈ groups
  settings : a.settings = lastValue? .settings groups
  workDir : a.workDir = lastValue? .workDir groups
  printing : .switch .printDefaultSettings ∈ groups → a.command = .printDefaultSettings
  generating : .switch .printDefaultSettings ∉ groups →
    ∃ request, lastValue? .request groups = some request ∧ a.command = .generate request

/-- The same groups in an order that keeps the values of each parameter in theirs. -/
structure Rearranges (groups groups' : List Group) : Prop where
  same : groups.Perm groups'
  values : ∀ p, valuesOf p groups = valuesOf p groups'

/-! ## Flags -/

section Flags

variable {s : Switch} {p : Parameter} {flag : String}

def Switch.turnOn : Switch → Draft → Draft
  | .dryRun => fun d => { d with dryRun := true }
  | .strict => fun d => { d with strict := true }
  | .compilerOutput => fun d => { d with compilerOutput := true }
  | .verbose => fun d => { d with verbose := true }
  | .printDefaultSettings => fun d => { d with printDefaultSettings := true }

def Parameter.store : Parameter → Path → Draft → Draft
  | .request => fun value d => { d with request := some value }
  | .settings => fun value d => { d with settings := some value }
  | .workDir => fun value d => { d with workDir := some value }

theorem valueOption?_of_parameter (h : flag ∈ p.spellings) :
    valueOption? flag = some (p.name, p.store) := by
  cases p <;> simp only [Parameter.spellings, List.mem_cons, List.not_mem_nil, or_false] at h
  case request => rcases h with rfl | rfl <;> rfl
  case settings => subst h; rfl
  case workDir => subst h; rfl

theorem valueOption?_of_switch (h : flag ∈ s.spellings) : valueOption? flag = none := by
  cases s <;> simp only [Switch.spellings, List.mem_cons, List.not_mem_nil, or_false] at h
  case verbose => rcases h with rfl | rfl <;> rfl
  all_goals subst h; rfl

theorem switch?_of_switch (h : flag ∈ s.spellings) : switch? flag = some s.turnOn := by
  cases s <;> simp only [Switch.spellings, List.mem_cons, List.not_mem_nil, or_false] at h
  case verbose => rcases h with rfl | rfl <;> rfl
  all_goals subst h; rfl

theorem exists_parameter {found : String × (Path → Draft → Draft)}
    (h : valueOption? flag = some found) : ∃ p : Parameter, flag ∈ p.spellings := by
  unfold valueOption? at h
  split at h
  · exact ⟨.request, by decide⟩
  · exact ⟨.request, by decide⟩
  · exact ⟨.settings, by decide⟩
  · exact ⟨.workDir, by decide⟩
  · cases h

theorem exists_switch {turnOn : Draft → Draft} (h : switch? flag = some turnOn) :
    ∃ s : Switch, flag ∈ s.spellings := by
  unfold switch? at h
  split at h
  · exact ⟨.dryRun, by decide⟩
  · exact ⟨.strict, by decide⟩
  · exact ⟨.compilerOutput, by decide⟩
  · exact ⟨.verbose, by decide⟩
  · exact ⟨.verbose, by decide⟩
  · exact ⟨.printDefaultSettings, by decide⟩
  · cases h

theorem valueOption?_eq_none_iff :
    valueOption? flag = none ↔ ∀ p : Parameter, flag ∉ p.spellings := by
  constructor
  · intro h p spelt
    cases h.symm.trans (valueOption?_of_parameter spelt)
  · intro h
    cases found : valueOption? flag with
    | none => rfl
    | some _ =>
        obtain ⟨p, spelt⟩ := exists_parameter found
        exact absurd spelt (h p)

theorem switch?_eq_none_iff : switch? flag = none ↔ ∀ s : Switch, flag ∉ s.spellings := by
  constructor
  · intro h s spelt
    cases h.symm.trans (switch?_of_switch spelt)
  · intro h
    cases found : switch? flag with
    | none => rfl
    | some _ =>
        obtain ⟨s, spelt⟩ := exists_switch found
        exact absurd spelt (h s)

end Flags

/-! ## Reading -/

section Reading

namespace ReachedIn

variable {arguments rest : List String} {s : Switch} {p : Parameter} {flag : String}

theorem start : ReachedIn arguments arguments :=
  ⟨[], [], rfl, .nil⟩

theorem switch (reached : ReachedIn arguments rest) (spelt : flag ∈ s.spellings) :
    ReachedIn (flag :: arguments) rest := by
  obtain ⟨front, groups, rfl, grouped⟩ := reached
  exact ⟨flag :: front, _, rfl, .switch spelt grouped⟩

theorem value (reached : ReachedIn arguments rest) (spelt : flag ∈ p.spellings)
    (text : String) : ReachedIn (flag :: text :: arguments) rest := by
  obtain ⟨front, groups, rfl, grouped⟩ := reached
  exact ⟨flag :: text :: front, _, rfl, .value spelt grouped⟩

end ReachedIn

variable {arguments front rest : List String} {groups : List Group} {f : UsageFault} {d : Draft}
  {flag : String}

def Draft.take (d : Draft) : Group → Draft
  | .switch s => s.turnOn d
  | .value p text => p.store ⟨text⟩ d

def collect (groups : List Group) : Draft :=
  groups.foldl Draft.take {}

theorem readGroups_of_groupedAs (h : GroupedAs front groups) (rest : List String) :
    ∀ d, readGroups d (front ++ rest) = readGroups (groups.foldl Draft.take d) rest := by
  induction h with
  | nil => intro d; rfl
  | switch spelt _ ih =>
      intro d
      rw [List.cons_append, readGroups, valueOption?_of_switch spelt]
      simp only [switch?_of_switch spelt]
      exact ih _
  | value spelt _ ih =>
      intro d
      rw [List.cons_append, readGroups, valueOption?_of_parameter spelt]
      exact ih _

theorem readGroups_of_illFormed (h : IllFormed rest f) : readGroups d rest = .fault f := by
  cases h with
  | unknown no_switch no_parameter no_help =>
      rw [readGroups, valueOption?_eq_none_iff.mpr no_parameter]
      simp only [switch?_eq_none_iff.mpr no_switch, no_help, Bool.false_eq_true, if_false]
  | missing spelt =>
      rw [readGroups, valueOption?_of_parameter spelt]

theorem readGroups_of_help (h : asksForHelp flag = true) :
    readGroups d (flag :: rest) = .help := by
  have written : flag = "--help" ∨ flag = "-h" := by
    simpa only [asksForHelp, Bool.or_eq_true, beq_iff_eq] using h
  rcases written with rfl | rfl <;> rfl

/-- Every list of arguments is groups, or groups as far as a call for help or a place where no
group begins. -/
theorem read_cases (arguments : List String) :
    (∃ groups, GroupedAs arguments groups) ∨
      (∃ flag rest, ReachedIn arguments (flag :: rest) ∧ asksForHelp flag = true) ∨
      ∃ f rest, ReachedIn arguments rest ∧ IllFormed rest f := by
  -- the draft has no share in how far the groups go
  generalize drafted : ({} : Draft) = d
  clear drafted
  fun_induction readGroups d arguments with
  | case1 d => exact .inl ⟨[], .nil⟩
  | case2 d flag name store found value more ih =>
      obtain ⟨p, spelt⟩ := exists_parameter found
      rcases ih with ⟨groups, grouped⟩ | ⟨help, rest, reached, asks⟩ | ⟨f, rest, reached, ill⟩
      · exact .inl ⟨_, .value spelt grouped⟩
      · exact .inr (.inl ⟨help, rest, reached.value spelt value, asks⟩)
      · exact .inr (.inr ⟨f, rest, reached.value spelt value, ill⟩)
  | case3 d flag name store found =>
      obtain ⟨p, spelt⟩ := exists_parameter found
      exact .inr (.inr ⟨_, [flag], .start, .missing spelt⟩)
  | case4 d flag more no_parameter turnOn found ih =>
      obtain ⟨s, spelt⟩ := exists_switch found
      rcases ih with ⟨groups, grouped⟩ | ⟨help, rest, reached, asks⟩ | ⟨f, rest, reached, ill⟩
      · exact .inl ⟨_, .switch spelt grouped⟩
      · exact .inr (.inl ⟨help, rest, reached.switch spelt, asks⟩)
      · exact .inr (.inr ⟨f, rest, reached.switch spelt, ill⟩)
  | case5 d flag more no_parameter no_switch asks => exact .inr (.inl ⟨flag, more, .start, asks⟩)
  | case6 d flag more no_parameter no_switch no_help =>
      exact .inr (.inr ⟨_, _, .start, .unknown (switch?_eq_none_iff.mp no_switch)
        (valueOption?_eq_none_iff.mp no_parameter) (by simpa using no_help)⟩)

theorem read_of_groupedAs (h : GroupedAs arguments groups) :
    read arguments = (collect groups).close := by
  have whole := readGroups_of_groupedAs h [] {}
  rw [List.append_nil, readGroups] at whole
  rw [read, whole]
  rfl

theorem read_of_illFormed (reached : ReachedIn arguments rest) (h : IllFormed rest f) :
    read arguments = .fault f := by
  obtain ⟨front, groups, rfl, grouped⟩ := reached
  rw [read, readGroups_of_groupedAs grouped, readGroups_of_illFormed h]

theorem read_of_help (reached : ReachedIn arguments (flag :: rest))
    (h : asksForHelp flag = true) : read arguments = .help := by
  obtain ⟨front, groups, rfl, grouped⟩ := reached
  rw [read, readGroups_of_groupedAs grouped, readGroups_of_help h]

end Reading

/-! ## Drafts -/

section Drafts

variable {s : Switch} {p : Parameter} {d d' : Draft} {g : Group} {groups groups' : List Group}
  {a : Arguments} {f : UsageFault}

def Draft.isOn (d : Draft) : Switch → Bool
  | .dryRun => d.dryRun
  | .strict => d.strict
  | .compilerOutput => d.compilerOutput
  | .verbose => d.verbose
  | .printDefaultSettings => d.printDefaultSettings

def Draft.value? (d : Draft) : Parameter → Option Path
  | .request => d.request
  | .settings => d.settings
  | .workDir => d.workDir

theorem Draft.isOn_take : (d.take g).isOn s = true ↔ d.isOn s = true ∨ g = .switch s := by
  cases g with
  | switch t => cases t <;> cases s <;> simp [take, Switch.turnOn, isOn]
  | value q text => cases q <;> cases s <;> simp [take, Parameter.store, isOn]

theorem Draft.value?_take :
    (d.take g).value? p = (lastValue? p [g]).or (d.value? p) := by
  cases g with
  | switch t => cases t <;> cases p <;> rfl
  | value q text => cases q <;> cases p <;> rfl

theorem isOn_foldl : ∀ {groups : List Group} {d : Draft},
    (groups.foldl Draft.take d).isOn s = true ↔ d.isOn s = true ∨ .switch s ∈ groups := by
  intro groups
  induction groups with
  | nil => intro d; simp
  | cons g groups ih =>
      intro d
      rw [List.foldl_cons, ih, Draft.isOn_take, List.mem_cons, or_assoc]
      exact or_congr Iff.rfl (or_congr eq_comm Iff.rfl)

theorem lastValue?_cons (g : Group) (groups : List Group) : lastValue? p (g :: groups) =
    (lastValue? p groups).or (lastValue? p [g]) := by
  have front : valuesOf p (g :: groups) = valuesOf p [g] ++ valuesOf p groups :=
    List.filterMap_append (l := [g])
  rw [lastValue?, front, List.getLast?_append, lastValue?, lastValue?]
  cases (valuesOf p groups).getLast? <;> rfl

theorem value?_foldl : ∀ {groups : List Group} {d : Draft},
    (groups.foldl Draft.take d).value? p = (lastValue? p groups).or (d.value? p) := by
  intro groups
  induction groups with
  | nil => intro d; rfl
  | cons g groups ih =>
      intro d
      rw [List.foldl_cons, ih, Draft.value?_take, lastValue?_cons g groups, Option.or_assoc]

theorem mem_valuesOf {text : String} : text ∈ valuesOf p groups ↔ .value p text ∈ groups := by
  rw [valuesOf, List.mem_filterMap]
  constructor
  · rintro ⟨g, among, found⟩
    cases g with
    | switch t => cases found
    | value q text' =>
        dsimp only at found
        split at found
        · next same => rwa [← Option.some.inj found, ← same]
        · cases found
  · intro among
    exact ⟨_, among, if_pos rfl⟩

theorem exists_lastValue?_iff :
    (∃ value, lastValue? p groups = some value) ↔ ∃ text, .value p text ∈ groups := by
  rw [← Option.isSome_iff_exists, lastValue?, Option.isSome_map, List.getLast?_isSome]
  constructor
  · intro something
    obtain ⟨text, among⟩ := List.exists_mem_of_ne_nil _ something
    exact ⟨text, mem_valuesOf.mp among⟩
  · rintro ⟨text, among⟩
    exact List.ne_nil_of_mem (mem_valuesOf.mpr among)

theorem isOn_collect : (collect groups).isOn s = true ↔ .switch s ∈ groups := by
  have nothing : ({} : Draft).isOn s = false := by cases s <;> rfl
  rw [collect, isOn_foldl, nothing]
  exact or_iff_right (by decide)

theorem value?_collect : (collect groups).value? p = lastValue? p groups := by
  have nothing : ({} : Draft).value? p = none := by cases p <;> rfl
  rw [collect, value?_foldl, nothing, Option.or_none]

theorem Draft.ext_of_view (on : ∀ s, d.isOn s = d'.isOn s)
    (values : ∀ p, d.value? p = d'.value? p) : d = d' := by
  rw [show d = ⟨d.value? .request, d.value? .settings, d.value? .workDir,
      d.isOn .printDefaultSettings, d.isOn .dryRun, d.isOn .strict, d.isOn .compilerOutput,
      d.isOn .verbose⟩ from rfl, values, values, values, on, on, on, on, on]
  rfl

/-- Groups that keep the order of values make the same draft. -/
theorem collect_of_rearranges (h : Rearranges groups groups') :
    collect groups = collect groups' := by
  refine Draft.ext_of_view (fun s => ?_) fun p => ?_
  · rw [Bool.eq_iff_iff, isOn_collect, isOn_collect, h.same.mem_iff]
  · rw [value?_collect, value?_collect, lastValue?, h.values, lastValue?]

theorem Draft.close_eq_done_iff : d.close = .done a ↔
    (a.dryRun = d.dryRun ∧ a.strict = d.strict ∧ a.compilerOutput = d.compilerOutput ∧
      a.verbose = d.verbose) ∧ (a.settings = d.settings ∧ a.workDir = d.workDir) ∧
    (d.printDefaultSettings = true → a.command = .printDefaultSettings) ∧
    (d.printDefaultSettings = false →
      ∃ request, d.request = some request ∧ a.command = .generate request) := by
  obtain ⟨command, settings, workDir, dryRun, strict, compilerOutput, verbose⟩ := a
  unfold close
  cases d.printDefaultSettings with
  | true => grind
  | false =>
      cases d.request with
      | none => grind
      | some request => grind

theorem Draft.close_eq_fault_iff : d.close = .fault f ↔
    f = .noRequest ∧ d.printDefaultSettings = false ∧ d.request = none := by
  unfold close
  cases d.printDefaultSettings with
  | true => simp
  | false =>
      cases d.request with
      | none => simp [eq_comm]
      | some request => simp

theorem Draft.close_ne_help : d.close ≠ .help := by
  unfold close
  dsimp only
  split
  · nofun
  · split <;> nofun

theorem request_collect : lastValue? .request groups = (collect groups).request :=
  (value?_collect (p := .request)).symm

theorem printing_iff : (collect groups).printDefaultSettings = true ↔
    .switch .printDefaultSettings ∈ groups :=
  isOn_collect (s := .printDefaultSettings)

theorem close_collect_eq_done_iff : (collect groups).close = .done a ↔ a.Records groups := by
  have switched : ∀ (b : Bool) (s : Switch),
      (b = true ↔ .switch s ∈ groups) ↔ b = (collect groups).isOn s := by
    intro b s
    exact (Bool.eq_iff_iff.trans (iff_congr Iff.rfl isOn_collect)).symm
  have given (p : Parameter) : lastValue? p groups = (collect groups).value? p :=
    value?_collect.symm
  rw [Draft.close_eq_done_iff, ← Bool.not_eq_true, printing_iff]
  constructor
  · rintro ⟨⟨dryRun, strict, compilerOutput, verbose⟩, ⟨settings, workDir⟩, print, generate⟩
    exact {
      dryRun := (switched _ .dryRun).mpr dryRun
      strict := (switched _ .strict).mpr strict
      compilerOutput := (switched _ .compilerOutput).mpr compilerOutput
      verbose := (switched _ .verbose).mpr verbose
      settings := settings.trans (given .settings).symm
      workDir := workDir.trans (given .workDir).symm
      printing := print
      generating := by
        rw [request_collect]
        exact generate }
  · intro h
    exact ⟨⟨(switched _ .dryRun).mp h.dryRun, (switched _ .strict).mp h.strict,
      (switched _ .compilerOutput).mp h.compilerOutput, (switched _ .verbose).mp h.verbose⟩,
      ⟨h.settings.trans (given .settings), h.workDir.trans (given .workDir)⟩, h.printing, by
        rw [← request_collect]
        exact h.generating⟩

theorem close_collect_eq_fault_iff :
    (collect groups).close = .fault f ↔ f = .noRequest ∧ ¬ Suffices groups := by
  rw [Draft.close_eq_fault_iff, Suffices, not_or, ← printing_iff, Bool.not_eq_true,
    ← request_collect, ← exists_lastValue?_iff, ← Option.isSome_iff_exists,
    Option.not_isSome_iff_eq_none]

theorem suffices_iff : Suffices groups ↔ ∃ a : Arguments, a.Records groups := by
  simp only [← close_collect_eq_done_iff]
  cases closed : (collect groups).close with
  | help => exact absurd closed Draft.close_ne_help
  | fault f => exact iff_of_false (close_collect_eq_fault_iff.mp closed).2 nofun
  | done a =>
      refine iff_of_true (Classical.byContradiction fun insufficient => ?_) ⟨a, rfl⟩
      cases closed.symm.trans (close_collect_eq_fault_iff.mpr ⟨rfl, insufficient⟩)

end Drafts

/-! ## The command line -/

section CommandLine

variable {arguments : List String} {a : Arguments} {f : UsageFault}

theorem read_eq_done_iff :
    read arguments = .done a ↔ ∃ groups, GroupedAs arguments groups ∧ a.Records groups := by
  constructor
  · intro h
    rcases read_cases arguments with
      ⟨groups, grouped⟩ | ⟨flag, rest, reached, asks⟩ | ⟨f, rest, reached, ill⟩
    · rw [read_of_groupedAs grouped, close_collect_eq_done_iff] at h
      exact ⟨groups, grouped, h⟩
    · cases (read_of_help reached asks).symm.trans h
    · cases (read_of_illFormed reached ill).symm.trans h
  · rintro ⟨groups, grouped, records⟩
    rw [read_of_groupedAs grouped, close_collect_eq_done_iff]
    exact records

theorem read_eq_fault_iff : read arguments = .fault f ↔
    (∃ rest, ReachedIn arguments rest ∧ IllFormed rest f) ∨
      f = .noRequest ∧ ∃ groups, GroupedAs arguments groups ∧ ¬ Suffices groups := by
  constructor
  · intro h
    rcases read_cases arguments with
      ⟨groups, grouped⟩ | ⟨flag, rest, reached, asks⟩ | ⟨f', rest, reached, ill⟩
    · rw [read_of_groupedAs grouped, close_collect_eq_fault_iff] at h
      exact .inr ⟨h.1, groups, grouped, h.2⟩
    · cases (read_of_help reached asks).symm.trans h
    · cases (read_of_illFormed reached ill).symm.trans h
      exact .inl ⟨rest, reached, ill⟩
  · rintro (⟨rest, reached, ill⟩ | ⟨nothing, groups, grouped, insufficient⟩)
    · exact read_of_illFormed reached ill
    · rw [read_of_groupedAs grouped, close_collect_eq_fault_iff]
      exact ⟨nothing, insufficient⟩

theorem read_eq_help_iff : read arguments = .help ↔
    ∃ flag rest, ReachedIn arguments (flag :: rest) ∧ asksForHelp flag = true := by
  constructor
  · intro h
    rcases read_cases arguments with ⟨groups, grouped⟩ | called | ⟨f, rest, reached, ill⟩
    · exact absurd ((read_of_groupedAs grouped).symm.trans h) Draft.close_ne_help
    · exact called
    · cases (read_of_illFormed reached ill).symm.trans h
  · rintro ⟨flag, rest, reached, asks⟩
    exact read_of_help reached asks

/-- The main result: a command line is accepted exactly if it is groups that suffice, and gives
what they ask for, in any order that keeps the values of each parameter in theirs; of any other,
the first place where no group begins decides, and a request is missed only where there is no such
place. -/
theorem read_as_groups (arguments : List String) :
    ((∃ a, read arguments = .done a) ↔
      ∃ groups, GroupedAs arguments groups ∧ Suffices groups) ∧
    (∀ a, read arguments = .done a ↔
      ∃ groups, GroupedAs arguments groups ∧ a.Records groups) ∧
    (∀ groups arguments' groups', GroupedAs arguments groups → GroupedAs arguments' groups' →
      Rearranges groups groups' → read arguments' = read arguments) ∧
    (∀ f, read arguments = .fault f ↔
      (∃ rest, ReachedIn arguments rest ∧ IllFormed rest f) ∨
        f = .noRequest ∧ ∃ groups, GroupedAs arguments groups ∧ ¬ Suffices groups) ∧
    (read arguments = .help ↔
      ∃ flag rest, ReachedIn arguments (flag :: rest) ∧ asksForHelp flag = true) := by
  refine ⟨?_, fun a => read_eq_done_iff, ?_, fun f => read_eq_fault_iff, read_eq_help_iff⟩
  · simp only [read_eq_done_iff, suffices_iff]
    exact ⟨fun ⟨a, groups, grouped, records⟩ => ⟨groups, grouped, a, records⟩,
      fun ⟨groups, grouped, a, records⟩ => ⟨a, groups, grouped, records⟩⟩
  · intro groups arguments' groups' grouped grouped' rearranged
    rw [read_of_groupedAs grouped, read_of_groupedAs grouped', collect_of_rearranges rearranged]

/-- Values may look like flags.  The second request wins, wherever the other groups stand. -/
theorem read_as_groups_flaglike :
    let arguments := ["-r", "--strict", "--verbose", "--request", "b", "--work-dir", "--help"]
    let groups : List Group :=
      [.value .request "--strict", .switch .verbose, .value .request "b", .value .workDir "--help"]
    let arguments' := ["--work-dir", "--help", "--request", "--strict", "-r", "b", "-v"]
    let groups' : List Group :=
      [.value .workDir "--help", .value .request "--strict", .value .request "b", .switch .verbose]
    GroupedAs arguments groups ∧ GroupedAs arguments' groups' ∧ Rearranges groups groups' ∧
      read arguments' = read arguments ∧
      read arguments =
        .done ⟨.generate ⟨"b"⟩, none, some ⟨"--help"⟩, false, false, false, true⟩ := by
  intro arguments groups arguments' groups'
  have grouped : GroupedAs arguments groups :=
    .value (by decide) (.switch (by decide) (.value (by decide) (.value (by decide) .nil)))
  have grouped' : GroupedAs arguments' groups' :=
    .value (by decide) (.value (by decide) (.value (by decide) (.switch (by decide) .nil)))
  have rearranged : Rearranges groups groups' :=
    ⟨by decide, fun p => by cases p <;> rfl⟩
  exact ⟨grouped, grouped', rearranged,
    (read_as_groups arguments).2.2.1 groups arguments' groups' grouped grouped' rearranged, rfl⟩

end CommandLine

end SpeechConfig.CommandLine
