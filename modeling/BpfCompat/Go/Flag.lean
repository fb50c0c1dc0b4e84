import BpfCompat.Go.Collections
import BpfCompat.Go.Strings

/-!
# Command line flags

The arguments of a command are read from the left.  An argument that begins with a hyphen is a
flag, whose value stands after an equals sign in it or is the next argument whatever that is; the
first argument that is no flag ends the reading.

Arguments that are pairs of a name and a value are read back as those values (`parse_pairs`).
-/

namespace Go

/-- A flag of a command: whether it is a switch, which needs no value, and what its value does to
the settings. -/
structure Flag (σ : Type) where
  isBool : Bool
  set : Str → σ → Except Str σ

/-- A flag that keeps its value as it is. -/
def Flag.string {σ : Type} (set : Str → σ → σ) : Flag σ where
  isBool := false
  set value s := .ok (set value s)

/-- The flags of a command, by name. -/
abbrev FlagSet (σ : Type) := List (Str × Flag σ)

/-- What an argument is: a flag with or without a value, the end of the flags, or something
else. -/
inductive Argument where
  | flag (name : Str) (value : Option Str)
  | terminator
  | malformed
  | other
deriving DecidableEq

/-- The name of a flag and the value after the first equals sign that is not its first
character. -/
def splitFlagName : Str → Argument
  | [] => .malformed
  | c :: rest =>
    if c = 45 ∨ c = 61 then .malformed
    else
      match rest.dropWhile (· ≠ 61) with
      | [] => .flag (c :: rest) none
      | _ :: value => .flag (c :: rest.takeWhile (· ≠ 61)) (some value)

def readArgument : Str → Argument
  | 45 :: 45 :: [] => .terminator
  | 45 :: 45 :: name => splitFlagName name
  | 45 :: c :: name => splitFlagName (c :: name)
  | _ => .other

/-- The settings after the flags of a command line, and the arguments that are left. -/
def FlagSet.parse {σ : Type} (flags : FlagSet σ) : List Str → σ → Except Str (σ × List Str)
  | [], s => .ok (s, [])
  | arg :: rest, s =>
    match readArgument arg with
    | .other => .ok (s, arg :: rest)
    | .terminator => .ok (s, rest)
    | .malformed => .error (str "bad flag syntax: " ++ arg)
    | .flag name value =>
      match flags.lookup name with
      | none =>
        if name = str "help" ∨ name = str "h" then .error (str "flag: help requested")
        else .error (str "flag provided but not defined: -" ++ name)
      | some flag =>
        if flag.isBool then do
          let s' ← flag.set (value.getD (str "true")) s
          flags.parse rest s'
        else
          match value, rest with
          | some v, rest => do
            let s' ← flag.set v s
            flags.parse rest s'
          | none, v :: rest => do
            let s' ← flag.set v s
            flags.parse rest s'
          | none, [] => .error (str "flag needs an argument: -" ++ name)

section

variable {σ : Type} {flags : FlagSet σ}

/-- A flag that keeps its value takes the next argument, whatever that is. -/
theorem FlagSet.parse_string {arg name value : Str} {rest : List Str} {set : Str → σ → σ} {s : σ}
    (harg : readArgument arg = .flag name none)
    (hname : flags.lookup name = some (Flag.string set)) :
  flags.parse (arg :: value :: rest) s = flags.parse rest (set value s)
  := by
  rw [FlagSet.parse, harg]
  simp only [hname]
  rfl

/-- A switch without a value. -/
theorem FlagSet.parse_switch {arg name : Str} {rest : List Str} {set : Str → σ → Except Str σ}
    {s s' : σ} (harg : readArgument arg = .flag name none)
    (hname : flags.lookup name = some ⟨true, set⟩) (hset : set (str "true") s = .ok s') :
  flags.parse (arg :: rest) s = flags.parse rest s'
  := by
  rw [FlagSet.parse, harg]
  simp only [hname, Option.getD_none, hset]
  rfl

/-- The arguments of pairs of a name and a value. -/
def pairArgs (pairs : List (Str × Str)) : List Str := pairs.flatMap fun p => [p.1, p.2]

@[simp]
theorem pairArgs_nil : pairArgs [] = [] := rfl

@[simp]
theorem pairArgs_cons (p : Str × Str) (pairs : List (Str × Str)) :
  pairArgs (p :: pairs) = p.1 :: p.2 :: pairArgs pairs
  := rfl

/-- Pairs of a name and a value are read back one after the other. -/
theorem FlagSet.parse_pairs (set : Str → Str → σ → σ) {rest : List Str}
    (pairs : List (Str × Str))
    (h : ∀ p ∈ pairs, ∃ name, readArgument p.1 = .flag name none ∧
      flags.lookup name = some (Flag.string (set p.1))) (s : σ) :
  flags.parse (pairArgs pairs ++ rest) s
    = flags.parse rest (pairs.foldl (fun s p => set p.1 p.2 s) s)
  := by
  induction pairs generalizing s with
  | nil => rfl
  | cons p pairs ih =>
      obtain ⟨name, harg, hname⟩ := h p List.mem_cons_self
      rw [pairArgs_cons, List.cons_append, List.cons_append, FlagSet.parse_string harg hname,
        List.foldl_cons]
      apply ih
      intro q hq
      exact h q (List.mem_cons_of_mem p hq)

end

end Go
