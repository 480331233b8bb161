import ScxManager.ScxUtils
import ScxManager.Library.Words

/-!
# Arguments as the text of the flags field

The window shows a list of arguments joined by single spaces. Applying cuts off the white space at
both ends of the text and hands it to the library, which splits it at every space.
-/

namespace ScxManager

variable {S B : Type}

/-- The characters a text is trimmed of: the separators of Unicode and six control characters. -/
def isSpace (c : Char) : Bool :=
  let n := c.toNat
  n == 0x20 || (0x09 ≤ n && n ≤ 0x0d) || n == 0x85 || n == 0xa0 || n == 0x1680 ||
    (0x2000 ≤ n && n ≤ 0x200a) || n == 0x2028 || n == 0x2029 || n == 0x202f || n == 0x205f ||
    n == 0x3000

/-- A text without the white space at its ends. -/
def trimmed (text : String) : String := String.ofList (Words.trim isSpace text.toList)

/-- Arguments as one text. -/
def joinArgs (args : List String) : String := " ".intercalate args

/-- The characters of joined arguments. -/
theorem toList_joinArgs (args : List String) :
    (joinArgs args).toList = Words.join ' ' (args.map String.toList) := by
  unfold joinArgs Words.join
  rw [String.toList_intercalate]
  rfl

/-- The library splits a text into words as the library of words does. -/
theorem schedArgsOf_eq (text : String) :
    schedArgsOf text = (Words.split ' ' text.toList).map String.ofList := by
  unfold schedArgsOf splitChar Words.split
  by_cases htext : text = ""
  · simp [htext]
  · have hlist : text.toList ≠ [] := by
      intro hnil
      exact htext (String.toList_inj.mp hnil)
    rw [if_neg htext, if_neg hlist]

/-- A list of words as strings is the list itself. -/
theorem map_ofList_eq_iff (words : List (List Char)) (args : List String) :
    words.map String.ofList = args ↔ words = args.map String.toList := by
  constructor
  · intro h
    rw [← h, List.map_map]
    simp
  · intro h
    rw [h, List.map_map]
    simp

/-- Joining the arguments built from a text gives the text back. -/
theorem joinArgs_schedArgsOf (text : String) : joinArgs (schedArgsOf text) = text := by
  apply String.toList_inj.mp
  rw [toList_joinArgs, schedArgsOf_eq, List.map_map]
  simp [Words.join_split]

/-- Trimming twice is trimming once. -/
theorem trimmed_trimmed (text : String) : trimmed (trimmed text) = trimmed text := by
  unfold trimmed
  rw [String.toList_ofList, Words.trim_trim]

/-- The arguments that applying reads back from the text they are shown as: none has a space in it,
the first one begins and the last one ends with a character that is not white space. -/
def ReadBackArgs (args : List String) : Prop :=
  Words.ReadBack isSpace ' ' (args.map String.toList)

/-- Applying reads back the arguments it is shown exactly if they are such. -/
theorem schedArgsOf_trimmed_joinArgs_iff (args : List String) :
    schedArgsOf (trimmed (joinArgs args)) = args ↔ ReadBackArgs args := by
  rw [schedArgsOf_eq, map_ofList_eq_iff]
  unfold trimmed ReadBackArgs
  rw [String.toList_ofList, toList_joinArgs]
  exact Words.split_trim_join_iff (by decide) _

end ScxManager
