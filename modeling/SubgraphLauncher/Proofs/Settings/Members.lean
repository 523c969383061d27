import Mathlib.Data.List.Induction
import Mathlib.Tactic.SplitIfs
import SubgraphLauncher.Action
import SubgraphLauncher.Value.Json

/-!
# The members of an object

An object is read member by member, in the order in which they are written, and then collected by
key. Of the members with one key the last one counts, and a key is collected once. So an object is
told by what its keys stand for, whatever their order.
-/

namespace SubgraphLauncher

open SubgraphLauncher.Text (Symbol)
open SubgraphLauncher.Value (entryOf?)

/-- What a value is as a key of an object. -/
def Value.IsName (key : Value) : Prop := ∃ row, key = .ofSymbols row

theorem Value.ofSymbols_cases (row : List Symbol) :
    (∃ s, Value.ofSymbols row = .text s) ∨ Value.ofSymbols row = .symbols row := by
  unfold Value.ofSymbols
  split
  · exact .inl ⟨_, rfl⟩
  · exact .inr rfl

namespace Json

/-- What a key stands for where members are written: the value of the last one with that key. -/
def lastOf? (key : String) (members : List (Value × Value)) : Option Value :=
  entryOf? key members.reverse

/-- Entries as an object has them. -/
structure IsObject (entries : List (Value × Value)) : Prop where
  names : ∀ entry ∈ entries, entry.1.IsName
  distinct : (entries.map (·.1)).Nodup

theorem sameText_eq {a b : Value} (h : sameText a b = true) : a = b := by
  cases a <;> cases b <;> simp_all [sameText]

theorem sameText_self {key : Value} (h : key.IsName) : sameText key key = true := by
  obtain ⟨row, rfl⟩ := h
  obtain ⟨s, hs⟩ | hs := Value.ofSymbols_cases row <;> rw [hs] <;> simp [sameText]

theorem entryOf?_cons (key : String) (entry : Value × Value) (entries : List (Value × Value)) :
    entryOf? key (entry :: entries) =
      if entry.1.isText key then some entry.2 else entryOf? key entries := by
  unfold entryOf?
  rw [List.find?_cons]
  cases entry.1.isText key <;> rfl

theorem entryOf?_cons_eq_or (key : String) (entry : Value × Value)
    (entries : List (Value × Value)) :
    entryOf? key (entry :: entries) = (entryOf? key [entry]).or (entryOf? key entries) := by
  rw [entryOf?_cons, entryOf?_cons]
  split_ifs <;> rfl

theorem mem_of_entryOf? {key : String} {value : Value} {entries : List (Value × Value)}
    (h : entryOf? key entries = some value) : (.text key, value) ∈ entries := by
  unfold entryOf? at h
  obtain ⟨⟨k, v⟩, hfound, rfl⟩ := Option.map_eq_some_iff.mp h
  have hkey := List.find?_some hfound
  rw [← Value.isText_iff.mp hkey]
  exact List.mem_of_find?_eq_some hfound

theorem entryOf?_eq_none_iff {key : String} {entries : List (Value × Value)} :
    entryOf? key entries = none ↔ .text key ∉ entries.map (·.1) := by
  unfold entryOf?
  rw [Option.map_eq_none_iff, List.find?_eq_none]
  simp only [Value.isText_iff, List.mem_map, not_exists, not_and]

namespace IsObject

variable {entries entries' : List (Value × Value)}

theorem nil : IsObject [] := ⟨by simp, by simp⟩

theorem tail {entry : Value × Value} (h : IsObject (entry :: entries)) : IsObject entries :=
  ⟨fun e he => h.names e (List.mem_cons_of_mem _ he), (List.nodup_cons.mp h.distinct).2⟩

/-- A key stands for nothing in front of the others, or for nothing in the others. -/
theorem entryOf?_eq_none_or {entry : Value × Value} (h : IsObject (entry :: entries))
    (key : String) : entryOf? key [entry] = none ∨ entryOf? key entries = none := by
  rw [entryOf?_eq_none_iff, entryOf?_eq_none_iff]
  by_cases hkey : .text key = entry.1
  · rw [hkey]
    exact .inr (List.nodup_cons.mp h.distinct).1
  · exact .inl (by simpa using hkey)

theorem entryOf?_eq_some_iff {key : String} {value : Value} (h : IsObject entries) :
    entryOf? key entries = some value ↔ (.text key, value) ∈ entries := by
  refine ⟨mem_of_entryOf?, fun hmem => ?_⟩
  induction entries with
  | nil => cases hmem
  | cons entry rest ih =>
      rw [entryOf?_cons]
      rcases List.mem_cons.mp hmem with rfl | hrest
      · exact if_pos (Value.isText_iff.mpr rfl)
      · have hkey : ¬entry.1.isText key := by
          intro htext
          have hfresh : entry.1 ∉ rest.map (·.1) := (List.nodup_cons.mp h.distinct).1
          rw [Value.isText_iff.mp htext] at hfresh
          exact hfresh (List.mem_map.mpr ⟨_, hrest, rfl⟩)
        rw [if_neg hkey]
        exact ih h.tail hrest

/-- The order of entries does not matter to what their keys stand for. -/
theorem entryOf?_perm (h : IsObject entries) (hperm : entries.Perm entries') (key : String) :
    entryOf? key entries = entryOf? key entries' := by
  have h' : IsObject entries' :=
    ⟨fun e he => h.names e (hperm.mem_iff.mpr he), (hperm.map _).nodup_iff.mp h.distinct⟩
  refine Option.ext fun value => ?_
  rw [h.entryOf?_eq_some_iff, h'.entryOf?_eq_some_iff, hperm.mem_iff]

end IsObject

/-! ## Collecting -/

theorem entryOf?_putEntry (key : String) (k v : Value) (entries : List (Value × Value)) :
    entryOf? key (putEntry k v entries) =
      if k.isText key then some v else entryOf? key entries := by
  induction entries with
  | nil => exact entryOf?_cons key (k, v) []
  | cons entry rest ih =>
      obtain ⟨k', old⟩ := entry
      rw [putEntry]
      split_ifs with hsame hkey hkey
      · rw [entryOf?_cons, sameText_eq hsame, if_pos hkey]
      · rw [entryOf?_cons, entryOf?_cons, sameText_eq hsame, if_neg hkey, if_neg hkey]
      · have hother : ¬k'.isText key := by
          intro htext
          rw [Value.isText_iff.mp htext, Value.isText_iff.mp hkey] at hsame
          exact hsame (beq_self_eq_true key)
        rw [entryOf?_cons, if_neg hother, ih, if_pos hkey]
      · rw [entryOf?_cons, entryOf?_cons, ih, if_neg hkey]

theorem mem_keys_putEntry {key k v : Value} {entries : List (Value × Value)} :
    key ∈ (putEntry k v entries).map (·.1) → key = k ∨ key ∈ entries.map (·.1) := by
  induction entries with
  | nil => simp [putEntry]
  | cons entry rest ih =>
      obtain ⟨k', old⟩ := entry
      rw [putEntry]
      split_ifs
      · exact .inr
      · rw [List.map_cons, List.map_cons, List.mem_cons, List.mem_cons]
        rintro (rfl | hrest)
        · exact .inr (.inl rfl)
        · exact (ih hrest).imp_right .inr

theorem IsObject.putEntry {k v : Value} {entries : List (Value × Value)} (h : IsObject entries)
    (hk : k.IsName) : IsObject (putEntry k v entries) := by
  constructor
  · intro entry hentry
    rcases mem_keys_putEntry (List.mem_map_of_mem hentry) with heq | hmem
    · rwa [heq]
    · obtain ⟨old, hold, heq⟩ := List.mem_map.mp hmem
      rw [← heq]
      exact h.names old hold
  · induction entries with
    | nil => simp [Json.putEntry]
    | cons entry rest ih =>
        obtain ⟨k', old⟩ := entry
        rw [Json.putEntry]
        split_ifs with hsame
        · exact h.distinct
        · rw [List.map_cons, List.nodup_cons]
          refine ⟨fun hmem => ?_, ih h.tail⟩
          rcases mem_keys_putEntry hmem with heq | hrest
          · dsimp only at heq
            rw [heq] at hsame
            exact hsame (sameText_self hk)
          · exact (List.nodup_cons.mp h.distinct).1 hrest

theorem collect_concat (members : List (Value × Value)) (last : Value × Value) :
    collect (members ++ [last]) = putEntry last.1 last.2 (collect members) := by
  rw [collect, List.foldl_append]
  rfl

theorem isObject_collect {members : List (Value × Value)}
    (h : ∀ member ∈ members, member.1.IsName) : IsObject (collect members) := by
  induction members using List.reverseRecOn with
  | nil => exact .nil
  | append_singleton init last ih =>
      rw [collect_concat]
      have hinit := ih fun member hmem => h member (List.mem_append_left _ hmem)
      exact hinit.putEntry (h last (by simp))

/-- Of the members with one key the last one counts. -/
theorem entryOf?_collect (key : String) (members : List (Value × Value)) :
    entryOf? key (collect members) = lastOf? key members := by
  induction members using List.reverseRecOn with
  | nil => rfl
  | append_singleton init last ih =>
      rw [collect_concat, entryOf?_putEntry, ih, lastOf?, lastOf?, List.reverse_append,
        List.reverse_singleton, List.singleton_append, entryOf?_cons]

/-! ## Reading -/

theorem readKey_isName {s left : List Char} {key : Value} (h : readKey s = .ok (key, left)) :
    key.IsName := by
  unfold readKey at h
  split at h
  · obtain ⟨⟨row, after⟩, -, h⟩ := bind_eq_ok_iff.mp h
    dsimp only at h
    split at h
    · cases h
      exact ⟨row, rfl⟩
    · cases h
  · cases h

theorem readMembers_isName {fuel room : Nat} {s left : List Char} {members : List (Value × Value)}
    (h : readMembers fuel room s = .ok (members, left)) : ∀ member ∈ members, member.1.IsName := by
  induction fuel generalizing s members left with
  | zero => cases h
  | succ fuel ih =>
      unfold readMembers at h
      obtain ⟨⟨key, afterKey⟩, hkey, h⟩ := bind_eq_ok_iff.mp h
      obtain ⟨⟨value, afterValue⟩, -, h⟩ := bind_eq_ok_iff.mp h
      obtain ⟨⟨closed, rest⟩, -, h⟩ := bind_eq_ok_iff.mp h
      have hfirst : key.IsName := readKey_isName hkey
      cases closed with
      | true =>
          cases h
          simpa using hfirst
      | false =>
          obtain ⟨⟨more, rest'⟩, hmore, h⟩ := bind_eq_ok_iff.mp h
          cases h
          exact List.forall_mem_cons.mpr ⟨hfirst, ih hmore⟩

/-- Reads an object behind its opening bracket, with its members as they are written. -/
def readObject (fuel room : Nat) (s : List Char) :
    Except Stop (List (Value × Value) × List Char) :=
  if room = 0 then .error (.tooDeep .object)
  else match skip s with
    | '\x7d' :: left => .ok ([], left)
    | left => readMembers fuel (room - 1) left

theorem readObject_isName {fuel room : Nat} {s left : List Char} {members : List (Value × Value)}
    (h : readObject fuel room s = .ok (members, left)) : ∀ member ∈ members, member.1.IsName := by
  unfold readObject at h
  split_ifs at h
  split at h
  · cases h
    simp
  · exact readMembers_isName h

theorem readValue_brace (fuel room : Nat) (rest : List Char) :
    readValue (fuel + 1) room ('\x7b' :: rest) =
      (readObject fuel room rest).map fun found => (.object (collect found.1), found.2) := by
  rw [readValue, readObject]
  split_ifs
  · rfl
  · generalize skip rest = inner
    cases inner with
    | nil => cases readMembers fuel (room - 1) [] <;> rfl
    | cons c left =>
        by_cases hclosed : c = '\x7d'
        · rw [hclosed]
          rfl
        · simp only [List.cons.injEq, hclosed, false_and, imp_self, implies_true]
          cases readMembers fuel (room - 1) (c :: left) <;> rfl

theorem readItems_list {fuel room : Nat} {done : List Value} {s left : List Char} {value : Value}
    (h : readItems fuel room done s = .ok (value, left)) : ∃ items, value = .list items := by
  induction fuel generalizing done s with
  | zero => cases h
  | succ fuel ih =>
      unfold readItems at h
      obtain ⟨⟨item, afterItem⟩, -, h⟩ := bind_eq_ok_iff.mp h
      obtain ⟨⟨closed, rest⟩, -, h⟩ := bind_eq_ok_iff.mp h
      cases closed with
      | true =>
          cases h
          exact ⟨_, rfl⟩
      | false => exact ih h

/-- What is read without opening a bracket is no object. -/
theorem readNumber_ne_object {s left : List Char} {entries : List (Value × Value)} :
    readNumber s ≠ .ok (.object entries, left) := by
  unfold readNumber
  dsimp only
  split_ifs <;> simp

theorem readWord?_ne_object {s left : List Char} {entries : List (Value × Value)} :
    readWord? s ≠ some (.object entries, left) := by
  intro h
  obtain ⟨⟨word, value⟩, hmem, h⟩ := List.exists_of_findSome?_eq_some h
  dsimp only at h
  split_ifs at h
  cases h
  simp [wordValues] at hmem

/-- Only a bracket opens an object. -/
theorem exists_of_readValue_object {fuel room : Nat} {s left : List Char}
    {entries : List (Value × Value)} (h : readValue fuel room s = .ok (.object entries, left)) :
    ∃ rest, s = '\x7b' :: rest := by
  cases fuel with
  | zero => cases h
  | succ fuel =>
      unfold readValue at h
      split at h
      · obtain ⟨⟨row, after⟩, -, h⟩ := bind_eq_ok_iff.mp h
        have hobject : Value.ofSymbols row = .object entries := congrArg Prod.fst (Except.ok.inj h)
        obtain ⟨text, htext⟩ | hrow := Value.ofSymbols_cases row
        · rw [htext] at hobject
          cases hobject
        · rw [hrow] at hobject
          cases hobject
      · split_ifs at h
        split at h
        · cases h
        · obtain ⟨items, hitems⟩ := readItems_list h
          cases hitems
      · exact ⟨_, rfl⟩
      · split at h
        · next found hfound =>
          cases h
          exact absurd hfound readWord?_ne_object
        · exact absurd h readNumber_ne_object

/-- The members of a document that is one object, as they are written. -/
def membersOf? (text : List Char) : Option (List (Value × Value)) :=
  match text.head? == some '\uFEFF', skip text with
  | false, '\x7b' :: rest =>
    match readObject (2 * text.length) nestingLimit rest with
    | .ok (members, left) => if (skip left).isEmpty then some members else none
    | .error _ => none
  | _, _ => none

theorem readDocument_eq_ok_iff {s : List Char} {value : Value} (h : s.head? ≠ some '\uFEFF') :
    readDocument s = .ok value ↔
      ∃ left, readValue (2 * s.length + 1) nestingLimit (skip s) = .ok (value, left) ∧
        skip left = [] := by
  unfold readDocument
  split
  · simp at h
  · rw [bind_eq_ok_iff]
    constructor
    · rintro ⟨⟨found, left⟩, hread, hend⟩
      dsimp only at hend
      split at hend
      · next hskip =>
        cases hend
        exact ⟨left, hread, hskip⟩
      · cases hend
    · rintro ⟨left, hread, hskip⟩
      refine ⟨(value, left), hread, ?_⟩
      dsimp only
      rw [hskip]
      rfl

theorem membersOf?_eq_some_iff {text : List Char} {members : List (Value × Value)} :
    membersOf? text = some members ↔
      text.head? ≠ some '\uFEFF' ∧ ∃ rest left, skip text = '\x7b' :: rest ∧
        readObject (2 * text.length) nestingLimit rest = .ok (members, left) ∧ skip left = [] := by
  unfold membersOf?
  split
  · next rest hmark hskip =>
    rw [beq_eq_false_iff_ne] at hmark
    split
    · next found left hread =>
      simp only [List.isEmpty_iff, Option.ite_none_right_eq_some, Option.some.injEq]
      constructor
      · rintro ⟨hend, rfl⟩
        exact ⟨hmark, rest, left, hskip, hread, hend⟩
      · rintro ⟨-, rest', left', hskip', hread', hend⟩
        cases hskip.symm.trans hskip'
        cases hread.symm.trans hread'
        exact ⟨hend, rfl⟩
    · next stop hread =>
      refine ⟨nofun, ?_⟩
      rintro ⟨-, rest', left', hskip', hread', -⟩
      cases hskip.symm.trans hskip'
      cases hread.symm.trans hread'
  · next hother =>
    refine ⟨nofun, ?_⟩
    rintro ⟨hmark, rest, -, hskip, -⟩
    exact absurd hskip (hother rest (beq_eq_false_iff_ne.mpr hmark))

theorem isName_of_membersOf? {text : List Char} {members : List (Value × Value)}
    (h : membersOf? text = some members) : ∀ member ∈ members, member.1.IsName := by
  obtain ⟨-, rest, left, -, hread, -⟩ := membersOf?_eq_some_iff.mp h
  exact readObject_isName hread

/-- A document is read as an object if its text has members, which are collected then. -/
theorem parse_eq_object_iff {text : List Char} {entries : List (Value × Value)} :
    parse text = .ok (.object entries) ↔
      ∃ members, membersOf? text = some members ∧ collect members = entries := by
  have hparse : parse text = .ok (.object entries) ↔ readDocument text = .ok (.object entries) := by
    unfold parse
    cases readDocument text <;> simp [Except.mapError]
  rw [hparse]
  by_cases hmark : text.head? = some '\uFEFF'
  · obtain ⟨rest, rfl⟩ : ∃ rest, text = '\uFEFF' :: rest := by
      cases text with
      | nil => cases hmark
      | cons c rest => exact ⟨rest, by cases hmark; rfl⟩
    refine ⟨nofun, ?_⟩
    rintro ⟨members, hmembers, -⟩
    exact absurd rfl (membersOf?_eq_some_iff.mp hmembers).1
  rw [readDocument_eq_ok_iff hmark]
  constructor
  · rintro ⟨left, hread, hend⟩
    obtain ⟨rest, hskip⟩ := exists_of_readValue_object hread
    rw [hskip, readValue_brace] at hread
    cases hobject : readObject (2 * text.length) nestingLimit rest with
    | error stop =>
        rw [hobject] at hread
        cases hread
    | ok found =>
        rw [hobject] at hread
        cases hread
        refine ⟨found.1, membersOf?_eq_some_iff.mpr ?_, rfl⟩
        exact ⟨hmark, rest, found.2, hskip, hobject, hend⟩
  · rintro ⟨members, hmembers, rfl⟩
    obtain ⟨-, rest, left, hskip, hread, hend⟩ := membersOf?_eq_some_iff.mp hmembers
    refine ⟨left, ?_, hend⟩
    rw [hskip, readValue_brace, hread]
    rfl

end Json

end SubgraphLauncher
