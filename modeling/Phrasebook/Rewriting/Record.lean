import Phrasebook.Project.Path

/-!
Records of what a rewriting did.
-/

namespace Phrasebook.Rewriting

/-- Why a replacement could not be made. -/
inductive Failure
  /-- The text is no longer at a place like the one where it was found. -/
  | textNotFound
  | overlap
  | unreadable (message : String)
deriving DecidableEq, Repr

def Failure.text : Failure → String
  | textNotFound => "text not found"
  | overlap => "overlaps another substitution"
  | unreadable message => "unreadable file: " ++ message

inductive Outcome
  | applied
  | failed (reason : Failure)
  | skipped (reason : String)
deriving DecidableEq, Repr

/-- One replacement of an occurrence. -/
structure Substitution where
  locationKey : String
  key : String
  phrase : String
  line : Nat
  old : String
  replacement : String
  outcome : Outcome
deriving DecidableEq, Repr

namespace Substitution

def isApplied (s : Substitution) : Bool := s.outcome == .applied

def failure? (s : Substitution) : Option Failure :=
  match s.outcome with
  | .failed reason => some reason
  | _ => none

def isSkipped (s : Substitution) : Bool :=
  match s.outcome with
  | .skipped _ => true
  | _ => false

end Substitution

structure FileRecord where
  file : String
  modified : Bool
  importInserted : Bool
  substitutions : List Substitution
deriving DecidableEq, Repr

/-- A file rewritten: what was done, and the new content if it differs. -/
structure FileRewrite where
  record : FileRecord
  content : Option String
deriving DecidableEq, Repr

structure Summary where
  records : List FileRecord := []
  backupDir : Option Path := none
  pendingReport : Option Path := none
  preview : Bool := false

namespace Summary

def filesModified (s : Summary) : Nat := s.records.countP (·.modified)

def count (s : Summary) (test : Substitution → Bool) : Nat :=
  (s.records.flatMap FileRecord.substitutions).countP test

def applied (s : Summary) : Nat := s.count Substitution.isApplied

def failed (s : Summary) : Nat := s.count (·.failure?.isSome)

def skipped (s : Summary) : Nat := s.count Substitution.isSkipped

end Summary
end Phrasebook.Rewriting
