/-!
# ASCII case

Names, keys and literal path segments compare without regard to the case of the letters `A`–`Z`;
all other characters, letters with accents included, compare as they are.

* `foldCase` : the text with its ASCII letters in lower case;
* `upperCase` : the text with its ASCII letters in upper case;
* `sameText` : equality up to ASCII case.
-/

namespace Routebook.Text

/-- The text with `A`–`Z` replaced by `a`–`z`. -/
def foldCase (s : String) : String :=
  String.ofList (s.toList.map Char.toLower)

/-- The text with `a`–`z` replaced by `A`–`Z`. -/
def upperCase (s : String) : String :=
  String.ofList (s.toList.map Char.toUpper)

def sameText (a b : String) : Bool :=
  foldCase a == foldCase b

theorem sameText_iff {a b : String} : sameText a b = true ↔ foldCase a = foldCase b := by
  simp [sameText]

@[simp] theorem sameText_refl (a : String) : sameText a a = true := by
  simp [sameText]

theorem sameText_comm (a b : String) : sameText a b = sameText b a := by
  rw [Bool.eq_iff_iff, sameText_iff, sameText_iff, eq_comm]

theorem sameText_congr {a b : String} (h : sameText a b = true) (c : String) :
    sameText a c = sameText b c := by
  rw [sameText, sameText, sameText_iff.1 h]

end Routebook.Text
