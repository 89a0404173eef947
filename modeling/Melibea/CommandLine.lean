import Melibea.Library.Decimal
import Melibea.Protocol

/-! The command line: which arguments name which command. -/

namespace Melibea.CommandLine

open Library

inductive Command
  | status (path : Option String)
  | checkConfig (path : Option String)
  | observe (path : Option String)
  | run (path : Option String)
  | list
  | minimize (id : Option WindowId)
  | restore (id : WindowId)
  | close (id : WindowId)
  | subscribe
  | help
  deriving DecidableEq

def parseWindowId (command value : String) : Except String WindowId :=
  match Decimal.unsigned value.toList with
  | some id => .ok id
  | none => .error s!"invalid window id for `{command}`: {value}"

def requiredWindowId (command : String) : List String → Except String WindowId
  | [id] => parseWindowId command id
  | [] => .error s!"`{command}` requires a window id"
  | _ => .error s!"`{command}` requires exactly one window id"

def requireNoOperands (command : String) (operands : List String) : Except String Unit :=
  match operands.head? with
  | some value => .error s!"unexpected argument for `{command}`: {value}"
  | none => .ok ()

def rejectConfig (command : String) (path : Option String) : Except String Unit :=
  if path.isSome then .error s!"`{command}` does not accept `--config`" else .ok ()

def parseCommand (command : String) (operands : List String) (configPath : Option String) :
    Except String Command :=
  match command with
  | "status" => do
    requireNoOperands command operands
    return .status configPath
  | "check-config" => do
    requireNoOperands command operands
    return .checkConfig configPath
  | "observe" => do
    requireNoOperands command operands
    return .observe configPath
  | "run" => do
    requireNoOperands command operands
    return .run configPath
  | "list" | "minimized" => do
    rejectConfig command configPath
    requireNoOperands command operands
    return .list
  | "minimize" => do
    rejectConfig command configPath
    match operands with
    | [] => return .minimize none
    | [id] => return .minimize (some (← parseWindowId command id))
    | _ => throw s!"`{command}` accepts at most one window id"
  | "restore" => do
    rejectConfig command configPath
    return .restore (← requiredWindowId command operands)
  | "close" | "close-window" => do
    rejectConfig command configPath
    return .close (← requiredWindowId command operands)
  | "subscribe" => do
    rejectConfig command configPath
    requireNoOperands command operands
    return .subscribe
  | "help" => do
    rejectConfig command configPath
    requireNoOperands command operands
    return .help
  | value => throw s!"unknown command: {value}"

def parsePositionals (configPath : Option String) : List String → Except String Command
  | [] => if configPath.isSome then .error "`--config` requires a command" else .ok .help
  | command :: operands => parseCommand command operands configPath

def parseArguments (positionals : List String) (configPath : Option String) :
    List String → Except String Command
  | [] => parsePositionals configPath positionals
  | argument :: arguments =>
    if argument = "--config" then
      match arguments with
      | [] => .error "`--config` requires a path"
      | path :: arguments =>
        if configPath.isSome then .error "`--config` may be supplied only once"
        else parseArguments positionals (some path) arguments
    else if argument = "--help" ∨ argument = "-h" then .ok .help
    else parseArguments (positionals ++ [argument]) configPath arguments

def parseArgs (arguments : List String) : Except String Command := parseArguments [] none arguments

def NamesWindow (word : String) (id : WindowId) : Prop :=
  ∃ digits, (word.toList = digits ∨ word.toList = '+' :: digits) ∧ digits ≠ [] ∧
    digits.all Char.isDigit ∧ Decimal.natural digits = id.toNat

inductive Names : List String → Option String → Command → Prop
  | status {path : Option String} : Names ["status"] path (.status path)
  | checkConfig {path : Option String} : Names ["check-config"] path (.checkConfig path)
  | observe {path : Option String} : Names ["observe"] path (.observe path)
  | run {path : Option String} : Names ["run"] path (.run path)
  | list {word : String} (h : word = "list" ∨ word = "minimized") : Names [word] none .list
  | minimizeFocused : Names ["minimize"] none (.minimize none)
  | minimize {word : String} {id : WindowId} (h : NamesWindow word id) :
    Names ["minimize", word] none (.minimize (some id))
  | restore {word : String} {id : WindowId} (h : NamesWindow word id) :
    Names ["restore", word] none (.restore id)
  | close {command word : String} {id : WindowId} (hc : command = "close" ∨ command = "close-window")
    (h : NamesWindow word id) : Names [command, word] none (.close id)
  | subscribe : Names ["subscribe"] none .subscribe
  | help : Names ["help"] none .help
  | nothing : Names [] none .help

def IsOption (argument : String) : Prop :=
  argument = "--config" ∨ argument = "--help" ∨ argument = "-h"

inductive Given : List String → List String → Option String → Prop
  | nil : Given [] [] none
  | word {argument : String} {arguments words : List String} {path : Option String}
    (h : ¬ IsOption argument) (rest : Given arguments words path) :
    Given (argument :: arguments) (argument :: words) path
  | config {path : String} {arguments words : List String} (rest : Given arguments words none) :
    Given ("--config" :: path :: arguments) words (some path)

def AsksForHelp (arguments : List String) : Prop :=
  ∃ before flag after words path, arguments = before ++ flag :: after ∧
    (flag = "--help" ∨ flag = "-h") ∧ Given before words path

lemma parseArguments_word {word : String} (h : ¬ IsOption word) (positionals arguments : List String)
    (config : Option String) :
    parseArguments positionals config (word :: arguments) =
      parseArguments (positionals ++ [word]) config arguments := by
  rw [IsOption, not_or] at h
  rw [parseArguments.eq_def]
  exact (if_neg h.1).trans (if_neg h.2)

lemma parseArguments_given {arguments words : List String} {path : Option String}
    (h : Given arguments words path) {config : Option String} (hc : path.isSome → config = none)
    (positionals rest : List String) :
    parseArguments positionals config (arguments ++ rest) =
      parseArguments (positionals ++ words) (path.or config) rest := by
  induction h generalizing positionals config with
  | nil => rw [List.nil_append, List.append_nil, Option.none_or]
  | word hword h ih =>
    rw [List.cons_append, parseArguments_word hword, ih hc, List.append_assoc,
      List.singleton_append]
  | @config file arguments words h ih =>
    obtain rfl := hc rfl
    exact ih (nomatch ·) positionals

lemma parseArguments_flag {flag : String} (h : flag = "--help" ∨ flag = "-h")
    (positionals arguments : List String) (config : Option String) :
    parseArguments positionals config (flag :: arguments) = .ok .help := by
  have hne : flag ≠ "--config" := by rcases h with rfl | rfl <;> decide
  rw [parseArguments.eq_def]
  exact (if_neg hne).trans (if_pos h)

inductive Stops (path : Option String) : List String → Prop
  | nowhere : Stops path []
  | flag {flag : String} {after : List String} (h : flag = "--help" ∨ flag = "-h") :
    Stops path (flag :: after)
  | missing : Stops path ["--config"]
  | repeated {file : String} {after : List String} (h : path.isSome) :
    Stops path ("--config" :: file :: after)

lemma given_until (positionals arguments : List String) (config : Option String) :
    ∃ before words path rest, arguments = before ++ rest ∧ Given before words path ∧
      (path.isSome → config = none) ∧ Stops (path.or config) rest := by
  induction positionals, config, arguments using parseArguments.induct with
  | case1 positionals config => exact ⟨[], [], none, [], rfl, .nil, (nomatch ·), .nowhere⟩
  | case2 positionals config => exact ⟨[], [], none, _, rfl, .nil, (nomatch ·), .missing⟩
  | case3 positionals config file arguments h =>
    exact ⟨[], [], none, _, rfl, .nil, (nomatch ·), .repeated h⟩
  | case4 positionals config file arguments h ih =>
    obtain rfl : config = none := by simpa using h
    obtain ⟨before, words, path, rest, rfl, hgiven, hpath, hstops⟩ := ih
    obtain rfl : path = none := by simpa using hpath
    exact ⟨_, words, some file, rest, rfl, .config hgiven, fun _ => rfl, hstops⟩
  | case5 positionals config flag arguments _ h =>
    exact ⟨[], [], none, _, rfl, .nil, (nomatch ·), .flag h⟩
  | case6 positionals config word arguments hconfig hflag ih =>
    obtain ⟨before, words, path, rest, rfl, hgiven, hpath, hstops⟩ := ih
    exact ⟨_, _, path, rest, rfl, .word (by rw [IsOption]; tauto) hgiven, hpath, hstops⟩

lemma parseWindowId_eq_ok {command word : String} {id : WindowId} :
    parseWindowId command word = .ok id ↔ NamesWindow word id := by
  rw [parseWindowId, NamesWindow, ← Decimal.unsigned_eq_some]
  cases Decimal.unsigned word.toList <;> simp

lemma requireNoOperands_bind {α : Type} {word : String} {operands : List String}
    {rest : Except String α} {a : α} :
    (requireNoOperands word operands >>= fun _ => rest) = .ok a ↔ operands = [] ∧ rest = .ok a := by
  cases operands with
  | nil => exact ⟨fun h => ⟨rfl, h⟩, And.right⟩
  | cons value values => exact iff_of_false (nomatch ·) (nomatch ·.1)

lemma rejectConfig_bind {α : Type} {word : String} {path : Option String} {rest : Except String α}
    {a : α} :
    (rejectConfig word path >>= fun _ => rest) = .ok a ↔ path = none ∧ rest = .ok a := by
  cases path with
  | none => exact ⟨fun h => ⟨rfl, h⟩, And.right⟩
  | some file => exact iff_of_false (nomatch ·) (nomatch ·.1)

lemma bind_return_eq_ok {α β : Type} {result : Except String α} {f : α → β} {b : β} :
    (result >>= fun a => return f a) = .ok b ↔ ∃ a, result = .ok a ∧ f a = b := by
  cases result with
  | error e => exact iff_of_false (nomatch ·) (fun ⟨_, h, _⟩ => (nomatch h))
  | ok a =>
    refine ⟨fun h => ⟨a, rfl, Except.ok.inj h⟩, ?_⟩
    rintro ⟨_, h, rfl⟩
    cases h
    rfl

lemma requiredWindowId_eq_ok {command : String} {operands : List String} {id : WindowId} :
    requiredWindowId command operands = .ok id ↔ ∃ word, operands = [word] ∧ NamesWindow word id := by
  rcases operands with _ | ⟨word, _ | ⟨_, _⟩⟩
  · simp [requiredWindowId]
  · simp [requiredWindowId, parseWindowId_eq_ok]
  · simp [requiredWindowId]

lemma names_of_parseCommand {path : Option String} {word : String} {operands : List String}
    {command : Command} (h : parseCommand word operands path = .ok command) :
    Names (word :: operands) path command := by
  unfold parseCommand at h
  split at h
  case h_1 | h_2 | h_3 | h_4 =>
    obtain ⟨rfl, h⟩ := requireNoOperands_bind.mp h
    cases h
    constructor
  case h_5 | h_6 =>
    obtain ⟨rfl, h⟩ := rejectConfig_bind.mp h
    obtain ⟨rfl, h⟩ := requireNoOperands_bind.mp h
    cases h
    exact .list (by simp)
  case h_7 =>
    obtain ⟨rfl, h⟩ := rejectConfig_bind.mp h
    split at h
    · cases h
      exact .minimizeFocused
    · obtain ⟨id, hid, rfl⟩ := bind_return_eq_ok.mp h
      exact .minimize (parseWindowId_eq_ok.mp hid)
    · cases h
  case h_8 =>
    obtain ⟨rfl, h⟩ := rejectConfig_bind.mp h
    obtain ⟨id, hid, rfl⟩ := bind_return_eq_ok.mp h
    obtain ⟨window, rfl, hw⟩ := requiredWindowId_eq_ok.mp hid
    exact .restore hw
  case h_9 | h_10 =>
    obtain ⟨rfl, h⟩ := rejectConfig_bind.mp h
    obtain ⟨id, hid, rfl⟩ := bind_return_eq_ok.mp h
    obtain ⟨window, rfl, hw⟩ := requiredWindowId_eq_ok.mp hid
    exact .close (by simp) hw
  case h_11 | h_12 =>
    obtain ⟨rfl, h⟩ := rejectConfig_bind.mp h
    obtain ⟨rfl, h⟩ := requireNoOperands_bind.mp h
    cases h
    constructor
  case h_13 => cases h

lemma parseCommand_of_names {path : Option String} {word : String} {operands : List String}
    {command : Command} (h : Names (word :: operands) path command) :
    parseCommand word operands path = .ok command := by
  cases h with
  | minimize hw =>
    refine rejectConfig_bind.mpr ⟨rfl, ?_⟩
    exact bind_return_eq_ok.mpr ⟨_, parseWindowId_eq_ok.mpr hw, rfl⟩
  | restore hw =>
    refine rejectConfig_bind.mpr ⟨rfl, ?_⟩
    exact bind_return_eq_ok.mpr ⟨_, requiredWindowId_eq_ok.mpr ⟨_, rfl, hw⟩, rfl⟩
  | close hc hw =>
    rcases hc with rfl | rfl
    all_goals
      refine rejectConfig_bind.mpr ⟨rfl, ?_⟩
      exact bind_return_eq_ok.mpr ⟨_, requiredWindowId_eq_ok.mpr ⟨_, rfl, hw⟩, rfl⟩
  | list hword => rcases hword with rfl | rfl <;> rfl
  | _ => rfl

lemma parsePositionals_eq_ok {path : Option String} {words : List String} {command : Command} :
    parsePositionals path words = .ok command ↔ Names words path command := by
  cases words with
  | nil =>
    rw [parsePositionals]
    constructor
    · intro h
      split_ifs at h with hp
      obtain rfl : path = none := by simpa using hp
      cases h
      exact .nothing
    · intro h
      cases h
      rfl
  | cons word operands => exact ⟨names_of_parseCommand, parseCommand_of_names⟩

/-- A command line is a command if its words, apart from `--config` and its path, spell it; anything
that follows a flag for help is not looked at. -/
theorem command_line_iff (arguments : List String) (command : Command) :
    parseArgs arguments = .ok command ↔
      (∃ words path, Given arguments words path ∧ Names words path command) ∨
        command = .help ∧ AsksForHelp arguments := by
  constructor
  · intro h
    obtain ⟨before, words, path, rest, rfl, hgiven, -, hstops⟩ := given_until [] arguments none
    rw [parseArgs, parseArguments_given hgiven (fun _ => rfl), List.nil_append, Option.or_none] at h
    rw [Option.or_none] at hstops
    cases hstops with
    | nowhere =>
      rw [List.append_nil]
      exact .inl ⟨words, path, hgiven, parsePositionals_eq_ok.mp h⟩
    | @flag flag after hflag =>
      rw [parseArguments_flag hflag] at h
      exact .inr ⟨(Except.ok.inj h).symm, before, flag, after, words, path, rfl, hflag, hgiven⟩
    | missing => cases h
    | repeated hpath =>
      rw [parseArguments, if_pos hpath] at h
      cases h
  · rintro (⟨words, path, hgiven, hnames⟩ | ⟨rfl, before, flag, after, words, path, rfl, hflag, hgiven⟩)
    · rw [parseArgs, ← List.append_nil arguments, parseArguments_given hgiven (fun _ => rfl),
        Option.or_none]
      exact parsePositionals_eq_ok.mpr hnames
    · rw [parseArgs, parseArguments_given hgiven (fun _ => rfl), parseArguments_flag hflag]

end Melibea.CommandLine
