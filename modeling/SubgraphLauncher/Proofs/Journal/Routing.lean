import Mathlib
import SubgraphLauncher.Proofs.Journal.Files

/-!
# Where records go

A journal may be set up any number of times, with records in between. What handles a record depends
on the last time only: the console from its level on, and the file if one could be opened. From then
on each record goes to each of the two once, or not at all if its level is too low, and to no file
of an earlier time. What files hold from before stays in front of what is added.

A record that is no text, because it names half of a surrogate pair, has no bytes that a file could
take. It goes to the console like any other, and a file only makes the host complain about it.
-/

namespace SubgraphLauncher.Journal

open SubgraphLauncher.Text (Symbol rowOf)

/-! ### What handles the records -/

theorem append_handlers (journal : Journal) (place : Place) (line : List Symbol) :
    (journal.append place line).handlers = journal.handlers := by
  unfold append
  split <;> rfl

theorem handle_handlers (level : Int) (line : List Symbol) (journal : Journal)
    (handler : Handler) : (handle level line journal handler).handlers = journal.handlers := by
  unfold handle
  split
  · split <;> rfl
  · split
    · exact append_handlers _ _ _
    · rfl

theorem foldl_handle_handlers (level : Int) (line : List Symbol) (handlers : List Handler)
    (journal : Journal) :
    (handlers.foldl (handle level line) journal).handlers = journal.handlers := by
  induction handlers generalizing journal with
  | nil => rfl
  | cons handler rest ih => rw [List.foldl_cons, ih, handle_handlers]

theorem write_handlers (journal : Journal) (level : Int) (source message : List Symbol) :
    (journal.write level source message).handlers = journal.handlers := by
  unfold write
  split
  · rfl
  split
  · split <;> rfl
  · exact foldl_handle_handlers _ _ _ _

theorem observe_handlers {τ : Type} (journal : Journal) (event : Event τ) :
    (journal.observe event).handlers = journal.handlers := by
  unfold observe
  split
  · rfl
  · split
    · exact write_handlers _ _ _ _
    · rfl

theorem foldl_observe_handlers {τ : Type} (events : List (Event τ)) (journal : Journal) :
    (events.foldl observe journal).handlers = journal.handlers := by
  induction events generalizing journal with
  | nil => rfl
  | cons event rest ih => rw [List.foldl_cons, ih, observe_handlers]

/-- Whatever becomes of the file, the console comes first and has its level. -/
theorem setUp_handlers (journal : Journal) (level : Int) (given : Option Path) (setting : Value) :
    (journal.setUp level given setting).2.handlers.head? = some (.console level) := by
  unfold setUp
  dsimp only
  split
  · rfl
  · rfl
  · unfold addFile
    dsimp only
    split
    · rfl
    · split
      · exact congrArg List.head? (write_handlers _ _ _ _)
      · rfl

/-! ### What is asked of a journal -/

/-- A record as it is handed to a journal. -/
structure Remark where
  level : Int
  source : List Symbol
  message : List Symbol

namespace Remark

def line (stamp : String) (remark : Remark) : List Symbol :=
  lineOf stamp remark.level remark.source remark.message

/-- What a file takes of a record: its line in UTF-8, or nothing if the line is no text. -/
def bytes? (stamp : String) (remark : Remark) : Option (List UInt8) :=
  Text.encodeRow? (remark.line stamp ++ rowOf "\n")

def bytes (stamp : String) (remark : Remark) : List UInt8 := (remark.bytes? stamp).getD []

/-- Whether a record is fine enough for a file: no finer than a note for debugging. -/
def isKept (remark : Remark) : Bool := 10 ≤ remark.level

def isShown (least : Int) (remark : Remark) : Bool := remark.isKept && least ≤ remark.level

/-- What the host prints about a record that was handed to a file. -/
def complaints (journal : Journal) (remark : Remark) : List (List Symbol) :=
  if remark.isKept then
    (remark.bytes? journal.stamp).elim (journal.complaint (remark.line journal.stamp)) fun _ => []
  else []

/-- What the console shows of a record: its line if the level is reached, and a complaint if there
is a file that cannot take it. -/
def shown (journal : Journal) (least : Int) (hasFile : Bool) (remark : Remark) :
    List (List Symbol) :=
  (if remark.isShown least then [remark.line journal.stamp] else []) ++
    if hasFile then remark.complaints journal else []

end Remark

/-- What is asked of a journal: to be set up, or to write a record. -/
inductive Call
  | setUp (level : Int) (given : Option Path) (setting : Value)
  | write (remark : Remark)

def take (journal : Journal) : Call → Journal
  | .setUp level given setting => (journal.setUp level given setting).2
  | .write remark => journal.write remark.level remark.source remark.message

def after (journal : Journal) (calls : List Call) : Journal := calls.foldl take journal

/-- The report that a file cannot be opened. -/
def refusal (path : Path) (failure : Failure Float) : Remark :=
  ⟨40, rootSource, refusalMessage path failure⟩

variable {journal ready last : Journal} {least : Int} {file? : Option Place}
  {remarks : List Remark}

/-! ### One record -/

theorem append_remark (journal : Journal) (place : Place) (stamp : String) (remark : Remark) :
    journal.append place (remark.line stamp) =
      { journal with
        console := journal.console ++
          (remark.bytes? stamp).elim (journal.complaint (remark.line stamp)) fun _ => []
        tree := journal.tree.append place (remark.bytes stamp) } := by
  rw [append, ← Remark.bytes?]
  cases hbytes : remark.bytes? stamp with
  | some bytes => simp [Remark.bytes, hbytes]
  | none => simp [Remark.bytes, hbytes, print, FileTree.append_nil]

theorem write_routed (journal : Journal) (least : Int) (file? : Option Place)
    (hroot : journal.rootLevel = 10)
    (hhandlers : journal.handlers = .console least :: file?.toList.map (.file 10))
    (remark : Remark) :
    journal.take (.write remark) =
      { journal with
        console := journal.console ++ remark.shown journal least file?.isSome
        tree :=
          if remark.isKept then
            file?.elim journal.tree fun place =>
              journal.tree.append place (remark.bytes journal.stamp)
          else journal.tree } := by
  obtain ⟨rootLevel, handlers, console, tree, stamp, complaint⟩ := journal
  subst hroot hhandlers
  by_cases hkept : 10 ≤ remark.level
  · have hwritten : ¬ (remark.level < 10 ∨ remark.level ≤ 0) := by omega
    have hline : lineOf stamp remark.level remark.source remark.message = remark.line stamp := rfl
    cases file? with
    | none =>
        by_cases hshown : least ≤ remark.level <;>
          simp [take, write, hwritten, hline, handle, print, Remark.shown, Remark.isShown,
            Remark.isKept, hkept, hshown]
    | some place =>
        by_cases hshown : least ≤ remark.level <;>
          simp [take, write, hwritten, hline, handle, print, Remark.shown, Remark.complaints,
            Remark.isShown, Remark.isKept, append_remark, hkept, hshown]
  · have hdropped : remark.level < 10 ∨ remark.level ≤ 0 := by omega
    simp [take, write, hdropped, Remark.shown, Remark.complaints, Remark.isShown, Remark.isKept,
      hkept]

/-! ### Records one after the other -/

/-- What a journal has come to since it was set up, after some records. -/
structure Routed (ready : Journal) (least : Int) (file? : Option Place) (remarks : List Remark)
    (last : Journal) : Prop where
  frame : last = { ready with console := last.console, tree := last.tree }
  console : last.console =
    ready.console ++ remarks.flatMap (Remark.shown ready least file?.isSome)
  file : ∀ place ∈ file?, ∀ content, ready.tree.Holds place content →
    last.tree.Holds place
      (content ++ (remarks.filter Remark.isKept).flatMap (Remark.bytes ready.stamp))
  others : ∀ place, place ∉ file? → last.tree.held? place = ready.tree.held? place

theorem Routed.start : Routed ready least file? [] ready where
  frame := rfl
  console := by simp
  file := by simp
  others := fun _ _ => rfl

/-- The next record is routed like those before it. -/
theorem Routed.next (hroot : ready.rootLevel = 10)
    (hhandlers : ready.handlers = .console least :: file?.toList.map (.file 10))
    (hrouted : Routed ready least file? remarks last) (remark : Remark) :
    Routed ready least file? (remarks ++ [remark]) (last.take (.write remark)) := by
  have hstamp : last.stamp = ready.stamp := by rw [hrouted.frame]
  have hshown : remark.shown last least file?.isSome = remark.shown ready least file?.isSome := by
    rw [hrouted.frame]
    rfl
  have hwritten := write_routed last least file? (by rw [hrouted.frame, hroot])
    (by rw [hrouted.frame, hhandlers]) remark
  rw [hshown, hstamp] at hwritten
  rw [hwritten]
  refine ⟨?_, ?_, ?_, ?_⟩
  · rw [hrouted.frame]
  · simp [hrouted.console]
  · intro place hplace content hfile
    have hheld := hrouted.file place hplace content hfile
    rw [Option.mem_def] at hplace
    cases hkept : remark.isKept with
    | false => simpa [hkept] using hheld
    | true =>
        have hgrown := FileTree.held?_append last.tree place (remark.bytes ready.stamp) place
        rw [FileTree.Holds] at hheld ⊢
        rw [hheld] at hgrown
        simp [hplace, hgrown, FileTree.grown, hkept]
  · intro place hplace
    rw [← hrouted.others place hplace]
    cases remark.isKept with
    | false => rfl
    | true =>
        cases file? with
        | none => rfl
        | some target =>
            have hne : place ≠ target := fun heq => hplace (congrArg some heq.symm)
            have hgrown := FileTree.held?_append last.tree target (remark.bytes ready.stamp) place
            rw [FileTree.grown_of_ne hne, Option.map_id_fun, id] at hgrown
            exact hgrown

variable {before : Journal} {level : Int} {given : Option Path} {setting : Value}

end SubgraphLauncher.Journal
