import CampaignFetch.Cli.Invocation
import CampaignFetch.Proofs.IntegerText

/-!
# Writing command lines

What a fetch is asked for can be written as arguments, each option with its value in one argument.

* `Command.readFrom_argument`, `Command.readFrom_command`: one step of reading.
* `Command.readFrom_options`: any options that a command takes, each given once.
* `read_fetchArguments`: the flag, the two words and the options of a fetch.
-/

namespace CampaignFetch.Cli

/-- The argument that gives an option its value. -/
def optionArgument (x : String × String) : String := "--" ++ x.1 ++ "=" ++ x.2

theorem Form.of_optionArgument {x : String × String} (h : '=' ∉ x.1.toList) :
    Form.of (optionArgument x) = .long x.1 (some x.2) := by
  have hText : (optionArgument x).toList = '-' :: '-' :: (x.1.toList ++ '=' :: x.2.toList) := by
    simp [optionArgument]
  have hName : ∀ c ∈ x.1.toList, decide (c ≠ '=') = true := fun c hc =>
    decide_eq_true fun hEq => h (hEq ▸ hc)
  have hLong : Form.of (optionArgument x) = .ofLong (x.1.toList ++ '=' :: x.2.toList) := by
    obtain ⟨c, cs, hCons⟩ := List.exists_cons_of_ne_nil
      (List.append_ne_nil_of_right_ne_nil x.1.toList (List.cons_ne_nil '=' x.2.toList))
    rw [Form.of, hText, hCons]
    rfl
  rw [hLong, Form.ofLong, List.takeWhile_append_of_pos hName, List.dropWhile_append_of_pos hName]
  simp

namespace Command

variable {c : Command}

/-! ## Steps of reading -/

theorem readFrom_argument {p p' : Progress} {arg : String} (hNone : p.command? c arg = none)
    (hArgument : p.argument c arg = .ok p') (rest : List String) :
    c.readFrom p (arg :: rest) = c.readFrom p' rest := by
  rw [readFrom, hNone]
  simp only [hArgument]
  rfl

theorem readFrom_command {sub : Command} {p p' : Progress} {arg : String}
    (hCommand : p.command? c arg = some sub) (hName : sub.name ≠ helpCommand.name)
    (hSettle : p.settle = .ok p') (rest : List String) :
    c.readFrom p (arg :: rest) =
      (sub.readFrom (.start sub) rest).map fun levels => p'.given :: levels := by
  rw [readFrom, hCommand]
  simp only [if_neg hName, hSettle]
  cases sub.readFrom (.start sub) rest <;> rfl

/-! ## Options -/

/-- The command takes the value for its option of the name. -/
structure Takes (c : Command) (x : String × String) : Prop where
  name : '=' ∉ x.1.toList
  noFlag : c.longFlag? x.1 = none
  option : ∃ option, c.option? x.1 = some option ∧ option.accepts x.2 = true

theorem Takes.argument {x : String × String} (h : c.Takes x) {g : Given}
    (hNew : g.value? x.1 = none) :
    (Progress.mk g none false).argument c (optionArgument x) =
      .ok ⟨{ g with values := x :: g.values }, none, false⟩ := by
  obtain ⟨option, hOption, hAccepts⟩ := h.option
  have hName : option.name = x.1 := by
    simpa using List.find?_some hOption
  simp only [Progress.argument, Form.of_optionArgument h.name, Progress.long, h.noFlag, hOption,
    Progress.settle, Progress.store, hName]
  simp [hNew, hAccepts, bind, Except.bind]

/-- Options that the command takes are all taken, one after the other. -/
theorem readFrom_options (hLeaf : c.subcommands = []) {xs : List (String × String)}
    (hTakes : ∀ x ∈ xs, c.Takes x) (hNodup : (xs.map (·.1)).Nodup) {g : Given}
    (hNew : ∀ x ∈ xs, g.value? x.1 = none) :
    c.readFrom ⟨g, none, false⟩ (xs.map optionArgument) =
      c.readFrom ⟨{ g with values := xs.reverse ++ g.values }, none, false⟩ [] := by
  induction xs generalizing g with
  | nil => rfl
  | cons x xs ih =>
    obtain ⟨hFirst, hRest⟩ := List.nodup_cons.mp hNodup
    have hNone : Progress.command? c ⟨g, none, false⟩ (optionArgument x) = none := by
      simp [Progress.command?, find?, isGroup, hLeaf]
    have hNext : ∀ y ∈ xs, ({ g with values := x :: g.values } : Given).value? y.1 = none := by
      intro y hy
      have hNe : y.1 ≠ x.1 := fun hEq => hFirst (List.mem_map.mpr ⟨y, hy, hEq⟩)
      rw [Given.value?, List.lookup_cons, beq_false_of_ne hNe]
      exact hNew y (List.mem_cons_of_mem _ hy)
    rw [List.map_cons, readFrom_argument hNone ((hTakes x List.mem_cons_self).argument
      (hNew x List.mem_cons_self)), ih (fun y hy => hTakes y (List.mem_cons_of_mem _ hy)) hRest
      hNext, List.reverse_cons, List.append_assoc, List.singleton_append]

end Command

/-! ## Fetches -/

/-- The command line of a fetch in JSON. -/
def fetchArguments (kind : Kind) (xs : List (String × String)) : List String :=
  "--json" :: "fetch" :: plural kind :: xs.map optionArgument

/-- The flag of the fetch is taken note of, and then the options are read. -/
theorem read_fetchArguments (kind : Kind) (xs : List (String × String)) :
    operatorCommand.read (fetchArguments kind xs) =
      ((fetchKindCommand kind).readFrom (.start (fetchKindCommand kind))
        (xs.map optionArgument)).map fun levels =>
          ⟨"campaign", [jsonFlag], [], []⟩ :: ⟨"fetch", [], [], []⟩ :: levels := by
  have hKind : (Progress.start fetchCommand).command? fetchCommand (plural kind) =
      some (fetchKindCommand kind) := by
    cases kind <;> rfl
  have hName : (fetchKindCommand kind).name ≠ Command.helpCommand.name := by
    cases kind <;> decide
  have hFlag : ∀ rest, operatorCommand.readFrom (.start operatorCommand) ("--json" :: rest) =
      operatorCommand.readFrom ⟨⟨"campaign", [jsonFlag], [], []⟩, none, false⟩ rest :=
    Command.readFrom_argument rfl rfl
  rw [Command.read, fetchArguments, hFlag,
    @Command.readFrom_command _ fetchCommand _ _ _ rfl (by decide) rfl,
    Command.readFrom_command hKind hName rfl]
  cases (fetchKindCommand kind).readFrom (.start (fetchKindCommand kind))
    (xs.map optionArgument) <;> rfl

end CampaignFetch.Cli
