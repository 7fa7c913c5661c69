import LatencyMeter.Proofs.Document.Restoring
import Mathlib.Data.List.Forall2

/-!
# Records and choices are restored

The members of a record are written in their declared order. Read one after the other, each
finds its place free, and so all places are filled in the end. A choice is restored from its
name alone or from its name and its content.
-/

namespace LatencyMeter
namespace Document

variable {rest : List Char}

/-- What is written for the members of an object behind others, or as the first ones. -/
def memberText (first : Bool) : List (String × Document) -> List Char
  | [] => []
  | members => if first then memberChars members else ',' :: memberChars members

theorem memberChars_cons
    (name : String)
    (value : Document)
    (others : List (String × Document)) :
    memberChars ((name, value) :: others) =
      stringChars name ++ ':' :: (value.chars ++ memberText false others) := by
  cases others <;> simp [memberChars, memberText]

theorem memberText_true (members : List (String × Document)) :
    memberText true members = memberChars members := by
  cases members <;> simp [memberText, memberChars]

/-- A value among members ends where its text ends. -/
theorem endsValue_memberText (members : List (String × Document)) (rest : List Char) :
    EndsValue (memberText false members ++ '\x7d' :: rest) := by
  cases members with
  | nil => exact endsValue_brace rest
  | cons member others => exact endsValue_comma _

/-- More is written for members than there are. -/
theorem length_le_memberText (first : Bool) (members : List (String × Document)) :
    members.length ≤ (memberText first members).length := by
  induction members generalizing first with
  | nil => exact Nat.zero_le _
  | cons member others hypothesis =>
      obtain ⟨name, value⟩ := member
      have more := hypothesis false
      have written : others.length + 1 ≤ (memberChars ((name, value) :: others)).length := by
        rw [memberChars_cons]
        simp only [List.length_append, List.length_cons]
        omega
      cases first with
      | true => exact written
      | false => exact Nat.le_succ_of_le written

/-! ## Members -/

/-- The first name of an object is read from its quotes. -/
theorem nextName_true (text : List Char) :
    nextName true ('"' :: text) =
      stringRest text >>= fun read => pure (some (String.ofList read.1), read.2) := rfl

/-- Another name is read behind a comma. -/
theorem nextName_false (text : List Char) :
    nextName false (',' :: '"' :: text) =
      stringRest text >>= fun read => pure (some (String.ofList read.1), read.2) := rfl

/-- The next member is found by its name. -/
theorem nextName_memberText
    (first : Bool)
    (name : String)
    (value : Document)
    (others : List (String × Document))
    (rest : List Char) :
    nextName first (memberText first ((name, value) :: others) ++ rest) =
      .ok (some name, ':' :: (value.chars ++ (memberText false others ++ rest))) := by
  have written : memberChars ((name, value) :: others) ++ rest =
      '"' :: (name.toList.flatMap stringChar ++
        '"' :: ':' :: (value.chars ++ (memberText false others ++ rest))) := by
    rw [memberChars_cons, List.append_assoc, stringChars_append, List.cons_append,
      List.append_assoc]
  have named : (some (String.ofList name.toList) : Option String) = some name := by
    rw [String.ofList_toList]
  cases first with
  | true =>
      change nextName true (memberChars ((name, value) :: others) ++ rest) = _
      rw [written, nextName_true, stringRest_text, ok_bind, named]
      rfl
  | false =>
      change nextName false (',' :: (memberChars ((name, value) :: others) ++ rest)) = _
      rw [written, nextName_false, stringRest_text, ok_bind, named]
      rfl

/-- Behind the last member there is no other. -/
theorem nextName_brace (first : Bool) (rest : List Char) :
    nextName first ('\x7d' :: rest) = .ok (none, rest) := rfl

theorem colon_cons (rest : List Char) : colon (':' :: rest) = .ok ((), rest) := rfl

/-! ## Records -/

/-- A member is found behind others with other names. -/
theorem positionOf_append
    {done : List Member}
    {member : Member}
    (other : forall earlier, earlier ∈ done -> earlier.name ≠ member.name)
    (remaining : List Member) :
    positionOf member.name (done ++ member :: remaining) = some done.length := by
  unfold positionOf
  rw [List.findIdx?_append, List.findIdx?_eq_none_iff.mpr]
  · simp [List.findIdx?_cons]
  · intro earlier present
    simpa using other earlier present

/-- One more member is read into its place. -/
theorem namedMembers_step
    {shape : Shape}
    {bound depth position : Nat}
    {first : Bool}
    {values : List (Option Document)}
    {text behind : List Char}
    {member : Member}
    {value : Document}
    (named : nextName first text = .ok (some member.name, ':' :: (value.chars ++ behind)))
    (place : positionOf member.name shape.members = some position)
    (free : values[position]? = some none)
    (known : shape.members[position]? = some member)
    (read : member.reader depth (value.chars ++ behind) = .ok (value, behind)) :
    namedMembers shape (bound + 1) first values depth text =
      namedMembers shape bound false (values.set position (some value)) depth behind := by
  rw [namedMembers]
  simp only [named, ok_bind, place, free, known, colon_cons, read]

/-- The values of members are read back by their readers. -/
abbrev AllRestored (levels : Nat) (members : List Member) (values : List Document) : Prop :=
  List.Forall₂ (fun member value => Restored member.reader levels value) members values

/-- The places of the members of a record, of which the first ones are filled. -/
def places (before : List Document) (remaining : List Member) : List (Option Document) :=
  before.map some ++ remaining.map fun _ => none

/-- The first place that is not filled is free. -/
theorem getElem?_places (before : List Document) (member : Member) (remaining : List Member) :
    (places before (member :: remaining))[before.length]? = some none := by
  simp [places]

theorem set_places
    (before : List Document)
    (member : Member)
    (remaining : List Member)
    (value : Document) :
    (places before (member :: remaining)).set before.length (some value) =
      places (before ++ [value]) remaining := by
  simp [places]

/-- The members that remain are read into their places behind those that are done. -/
theorem namedMembers_memberText
    {shape : Shape}
    {levels depth : Nat}
    (distinct : (shape.members.map Member.name).Nodup)
    (deep : levels < depth)
    {done remaining : List Member}
    (whole : shape.members = done ++ remaining)
    {before values : List Document}
    (filled : before.length = done.length)
    (restored : AllRestored levels remaining values)
    {bound : Nat}
    (enough : remaining.length < bound)
    (first : Bool)
    (rest : List Char) :
    namedMembers shape bound first (places before remaining) depth
        (memberText first ((remaining.map Member.name).zip values) ++ '\x7d' :: rest) =
      .ok ((before ++ values).map some, rest) := by
  induction restored generalizing done before bound first with
  | nil =>
      obtain ⟨bound, rfl⟩ := Nat.exists_eq_add_one_of_ne_zero (Nat.ne_zero_of_lt enough)
      rw [namedMembers]
      simp only [List.map_nil, List.zip_nil_left, memberText, List.nil_append, nextName_brace,
        ok_bind, places, List.append_nil]
      rfl
  | @cons member value remaining values restores _ hypothesis =>
      obtain ⟨bound, rfl⟩ := Nat.exists_eq_add_one_of_ne_zero (Nat.ne_zero_of_lt enough)
      have other : forall earlier, earlier ∈ done -> earlier.name ≠ member.name := by
        rw [whole, List.map_append, List.nodup_append] at distinct
        intro earlier present
        exact distinct.2.2 _ (List.mem_map_of_mem present) _ (by simp)
      have place : positionOf member.name shape.members = some before.length := by
        rw [whole, filled]
        exact positionOf_append other remaining
      have known : shape.members[before.length]? = some member := by
        rw [whole, filled]
        simp
      refine (namedMembers_step
        (nextName_memberText first member.name value ((remaining.map Member.name).zip values) _)
        place (getElem?_places before member remaining) known
        (restores depth _ deep (endsValue_memberText _ rest))).trans ?_
      have behind : before ++ value :: values = before ++ [value] ++ values :=
        List.append_cons _ _ _
      rw [set_places, behind]
      exact hypothesis (whole.trans (List.append_cons _ _ _)) (by simp [filled])
        (Nat.lt_of_succ_lt_succ enough) false

/-- Places that are all filled hold the values. -/
theorem filled_map_some
    {members : List Member}
    {values : List Document}
    (length : members.length = values.length) :
    filled members (values.map some) = some values := by
  induction members generalizing values with
  | nil =>
      obtain rfl := List.length_eq_zero_iff.mp length.symm
      rfl
  | cons member others hypothesis =>
      cases values with
      | nil => contradiction
      | cons value values =>
          have read := hypothesis (Nat.succ.inj length)
          simp [filled, read]

/-- What is inside a record or a choice is read one level deeper. -/
theorem nested_of_lt
    {levels depth : Nat}
    (deep : levels + 1 < depth)
    (inside : Nat -> Except DocumentFault (α × List Char)) :
    nested depth inside = inside (depth - 1) :=
  if_neg (by omega)

/-- A record is read back if the values of its members are and suit each other. -/
theorem restored_record
    {shape : Shape}
    {levels : Nat}
    {values : List Document}
    (distinct : (shape.members.map Member.name).Nodup)
    (restored : AllRestored levels shape.members values)
    (settled : shape.settle values = some values) :
    Restored (recordReader shape) (levels + 1)
      (.object ((shape.members.map Member.name).zip values)) := by
  intro depth rest deep _
  let members := (shape.members.map Member.name).zip values
  have length := restored.length_eq
  have written : (object members).chars ++ rest =
      '\x7b' :: (memberText true members ++ '\x7d' :: rest) := by
    rw [memberText_true]
    simp [chars]
  have enough : shape.members.length < (memberText true members ++ '\x7d' :: rest).length + 1 := by
    have least := length_le_memberText true members
    have count : members.length = shape.members.length := by simp [members, length]
    rw [List.length_append]
    omega
  have together : shape.members = [] ++ shape.members := rfl
  have read : namedMembers shape _ true (places [] shape.members) (depth - 1)
      (memberText true members ++ '\x7d' :: rest) = .ok (([] ++ values).map some, rest) :=
    namedMembers_memberText distinct (Nat.lt_sub_of_add_lt deep) together rfl restored enough
      true rest
  change namedMembers shape _ true (shape.members.map fun _ => none) _ _ = _ at read
  rw [written, recordReader, skipSpace_cons rfl]
  simp only [nested_of_lt deep, read, ok_bind, List.nil_append, filled_map_some length,
    Shape.document, settled]
  rfl

/-- A record whose members do not depend on each other is read back if its members are. -/
theorem restored_plain
    {members : List Member}
    {levels : Nat}
    {values : List Document}
    (restored : AllRestored levels members values)
    (distinct : (members.map Member.name).Nodup) :
    Restored (recordReader (.plain members)) (levels + 1)
      (.object ((members.map Member.name).zip values)) :=
  restored_record distinct restored rfl

/-! ## Choices -/

/-- An alternative is chosen by its name. -/
def Chosen (alternatives : List Alternative) (chosen : Alternative) : Prop :=
  (alternatives.find? fun alternative => alternative.name == chosen.name) = some chosen

/-- An alternative without content is read back from its name. -/
theorem restored_bare
    {alternatives : List Alternative}
    {name : String}
    (chosen : Chosen alternatives ⟨name, none⟩) :
    Restored (choiceReader alternatives) 0 (.string name) := by
  intro depth rest _ _
  unfold Chosen at chosen
  rw [chars, stringChars_append, choiceReader, skipSpace_cons rfl]
  simp only [stringRest_text, ok_bind, String.ofList_toList, chosen]
  rfl

/-- An alternative with content is read back if its content is. -/
theorem restored_content
    {alternatives : List Alternative}
    {name : String}
    {reader : Reader}
    {levels : Nat}
    {value : Document}
    (chosen : Chosen alternatives ⟨name, some reader⟩)
    (restored : Restored reader levels value) :
    Restored (choiceReader alternatives) (levels + 1) (.object [(name, value)]) := by
  intro depth rest deep _
  have written : (object [(name, value)]).chars ++ rest =
      '\x7b' :: (stringChars name ++ ':' :: (value.chars ++ '\x7d' :: rest)) := by
    simp [chars, memberChars]
  have content := restored (depth - 1) _ (Nat.lt_sub_of_add_lt deep) (endsValue_brace rest)
  unfold Chosen at chosen
  rw [written, choiceReader, skipSpace_cons rfl]
  simp only [nested_of_lt deep, anyString_stringChars, ok_bind, String.ofList_toList, chosen,
    alternativeContent, colon_cons, content]
  rfl

/-! ## Whole documents -/

/-- A restored document is read from its text. -/
theorem read_text
    {reader : Reader}
    {levels : Nat}
    {document : Document}
    (restored : Restored reader levels document)
    (flat : levels < depthLimit) :
    read reader document.text = .ok document := by
  have whole := restored depthLimit [] flat endsValue_nil
  rw [List.append_nil] at whole
  unfold read text
  rw [String.toList_ofList, whole]
  rfl

/-- A value is read from the text of a restored document that stands for it. -/
theorem readAs_text
    {reader : Reader}
    {levels : Nat}
    {document : Document}
    {value? : Document -> Option α}
    {value : α}
    (restored : Restored reader levels document)
    (flat : levels < depthLimit)
    (stands : value? document = some value) :
    readAs reader value? document.text = .ok value := by
  unfold readAs
  rw [read_text restored flat, ok_bind, stands]
  rfl

end Document
end LatencyMeter
