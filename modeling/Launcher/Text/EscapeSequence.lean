import Launcher.Text.Basic

/-!
# Escape sequences of terminals

Colours are switched by control sequences: ESC and an opening bracket, parameter characters,
intermediate characters, and one final character. Where colours are not wanted, all such sequences
are cut out in one pass from left to right; any other use of ESC stays.

## Main definitions

* `Launcher.EscapeSequence.length?` — the length of the sequence with which a text begins.
* `Launcher.EscapeSequence.strip` — a text without its sequences.
-/

namespace Launcher.EscapeSequence

/-- From `0` to `?`. -/
def isParameter : Symbol → Bool
  | .char c => 0x30 ≤ c.toNat && c.toNat ≤ 0x3F
  | .raw _ => false

/-- From the space to `/`. -/
def isIntermediate : Symbol → Bool
  | .char c => 0x20 ≤ c.toNat && c.toNat ≤ 0x2F
  | .raw _ => false

/-- From `@` to `~`. -/
def isFinal : Symbol → Bool
  | .char c => 0x40 ≤ c.toNat && c.toNat ≤ 0x7E
  | .raw _ => false

/-- The length of the control sequence with which the text begins. The three classes of characters
are disjoint, so the longest runs are the only candidates. -/
def length? : Text → Option Nat
  | .char '\x1b' :: .char '[' :: rest =>
      let parameters := rest.takeWhile isParameter
      let intermediates := (rest.drop parameters.length).takeWhile isIntermediate
      match rest.drop (parameters.length + intermediates.length) with
      | final :: _ =>
          if isFinal final then some (2 + parameters.length + intermediates.length + 1) else none
      | [] => none
  | _ => none

/-- The text without its control sequences. -/
def strip (t : Text) : Text :=
  go [] 0 t
where
  /-- Reads on with the symbols kept in `done`, latest first, while `pending` symbols still belong
  to the last sequence found. -/
  go (done : Text) : Nat → Text → Text
    | _, [] => done.reverse
    | pending + 1, _ :: rest => go done pending rest
    | 0, s :: rest =>
        match length? (s :: rest) with
        | some n => go done (n - 1) rest
        | none => go (s :: done) 0 rest

/-- Switches to bold blue letters. -/
def boldBlue : Text := lit "\x1b[34m\x1b[1m"

/-- Switches to green letters. -/
def green : Text := lit "\x1b[32m"

/-- Switches all attributes off. -/
def reset : Text := lit "\x1b[0m"

/-- The launcher's own sequences are cut out; what only begins like one stays. -/
example : strip (boldBlue ++ lit "user:" ++ reset ++ lit " \x1b]x") = lit "user: \x1b]x" := by
  decide

end Launcher.EscapeSequence
