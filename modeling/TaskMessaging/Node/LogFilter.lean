import TaskMessaging.Log
import TaskMessaging.Text.Lower
import TaskMessaging.Text.Split

/-!
# Log filters

Which log entries are written. A filter is a list of directives with commas between them, each a
level or a target with perhaps a level of its own. Of the directives whose target an entry's target
begins with, the one with the longest target decides; without any only errors are written.
-/

namespace TaskMessaging.Node

/-- For entries of some targets, how many levels are written, the most severe first. -/
structure Directive where
  /-- Empty for all entries. -/
  target : String
  levels : Nat
deriving DecidableEq

/-- A list of directives. -/
structure LogFilter where
  directives : List Directive
deriving DecidableEq

namespace LogFilter

/-- The number of levels up to one that is given by name or number. -/
def levels? (s : String) : Option Nat :=
  match Text.lower s with
  | "off" | "0" => some 0
  | "error" | "1" => some 1
  | "warn" | "2" => some 2
  | "info" | "3" => some 3
  | "debug" | "4" => some 4
  | "trace" | "5" => some 5
  | _ => none

/-- More levels than there are: everything is written. -/
def allLevels : Nat := 5

/-- The characters of targets. -/
def isTargetChar (c : Char) : Bool :=
  c.isAlphanum || c = '_' || c = ':' || c = '-' || 127 < c.toNat

/-- One directive. A target without a level is written in full. -/
def directive? (cs : List Char) : Option Directive :=
  let target := String.ofList (cs.takeWhile isTargetChar)
  match cs.dropWhile isTargetChar with
  | [] =>
    if cs = [] then none
    else match levels? target with
      | some n => some ⟨"", n⟩
      | none => some ⟨target, allLevels⟩
  | ['='] => if target.isEmpty then none else some ⟨target, allLevels⟩
  | '=' :: level =>
    if target.isEmpty then none
    else (levels? (String.ofList level)).map fun n ↦ ⟨target, n⟩
  | _ => none

/-- Reads a filter. -/
def ofText? (s : String) : Option LogFilter :=
  if s.isEmpty then some ⟨[⟨"", 1⟩]⟩
  else ((Text.splitAt ',' s.toList).mapM directive?).map LogFilter.mk

/-- The directive that decides about a target: of the longest targets the last one. -/
def deciding? (f : LogFilter) (target : String) : Option Directive :=
  (f.directives.filter fun d ↦ d.target.isPrefixOf target).foldl (fun best d ↦
    match best with
    | some b => if b.target.length ≤ d.target.length then some d else some b
    | none => some d) none

/-- The entry is written. -/
def admits (f : LogFilter) (e : Log.Entry) : Bool :=
  match f.deciding? e.target with
  | some d => e.level.rank < d.levels
  | none => false

/-- Of the entries of one target, those that are more severe than a written one are written. -/
theorem admits_of_rank_le {f : LogFilter} {e d : Log.Entry} (ht : d.target = e.target)
    (hr : d.level.rank ≤ e.level.rank) (h : f.admits e = true) : f.admits d = true := by
  unfold admits at h ⊢
  rw [ht]
  split at h
  · simp_all
    omega
  · cases h

end LogFilter

end TaskMessaging.Node
