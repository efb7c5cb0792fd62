import Soundalike.Rule.Tables

set_option autoImplicit false

/-!
# The Daitch-Mokotoff rules

The rule set that is used where no other is named: the Daitch-Mokotoff coding rules, with a folding
of accented Latin letters to plain ones.  The letters with several sounds give a name several codes.
-/

namespace Soundalike.Bundled

/-- The rules, one row each: the pattern, then the replacements at the start of a word, before a
vowel, and elsewhere. -/
def rows : List (String × String × String × String) := [
  -- vowels
  ("a", "0", "", ""), ("e", "0", "", ""), ("i", "0", "", ""), ("o", "0", "", ""),
  ("u", "0", "", ""),
  -- consonants
  ("b", "7", "7", "7"), ("d", "3", "3", "3"), ("f", "7", "7", "7"), ("g", "5", "5", "5"),
  ("h", "5", "5", ""), ("k", "5", "5", "5"), ("l", "8", "8", "8"), ("m", "6", "6", "6"),
  ("n", "6", "6", "6"), ("p", "7", "7", "7"), ("q", "5", "5", "5"), ("r", "9", "9", "9"),
  ("s", "4", "4", "4"), ("t", "3", "3", "3"), ("v", "7", "7", "7"), ("w", "7", "7", "7"),
  ("x", "5", "54", "54"), ("y", "1", "", ""), ("z", "4", "4", "4"),
  -- the Romanian t with cedilla or comma
  ("ţ", "3|4", "3|4", "3|4"), ("ț", "3|4", "3|4", "3|4"),
  -- the Polish nasal vowels: elsewhere not coded, or coded as 6
  ("ę", "", "", "|6"), ("ą", "", "", "|6"),
  -- vowel clusters
  ("ai", "0", "1", ""), ("aj", "0", "1", ""), ("ay", "0", "1", ""), ("au", "0", "7", ""),
  ("ei", "0", "1", ""), ("ej", "0", "1", ""), ("ey", "0", "1", ""), ("eu", "1", "1", ""),
  ("ia", "1", "", ""), ("ie", "1", "", ""), ("io", "1", "", ""), ("iu", "1", "", ""),
  ("oi", "0", "1", ""), ("oj", "0", "1", ""), ("oy", "0", "1", ""), ("ue", "0", "", ""),
  ("ui", "0", "1", ""), ("uj", "0", "1", ""), ("uy", "0", "1", ""),
  -- consonant clusters
  ("chs", "5", "54", "54"), ("cz", "4", "4", "4"), ("cs", "4", "4", "4"), ("csz", "4", "4", "4"),
  ("czs", "4", "4", "4"), ("drz", "4", "4", "4"), ("drs", "4", "4", "4"), ("ds", "4", "4", "4"),
  ("dsh", "4", "4", "4"), ("dsz", "4", "4", "4"), ("dz", "4", "4", "4"), ("dzh", "4", "4", "4"),
  ("dzs", "4", "4", "4"), ("dt", "3", "3", "3"), ("fb", "7", "7", "7"), ("kh", "5", "5", "5"),
  ("ks", "5", "54", "54"), ("mn", "66", "66", "66"), ("nm", "66", "66", "66"),
  ("pf", "7", "7", "7"), ("ph", "7", "7", "7"), ("sc", "2", "4", "4"), ("sch", "4", "4", "4"),
  ("schd", "2", "43", "43"), ("scht", "2", "43", "43"), ("schtch", "2", "4", "4"),
  ("schtsch", "2", "4", "4"), ("schtsh", "2", "4", "4"), ("sd", "2", "43", "43"),
  ("sh", "4", "4", "4"), ("shch", "2", "4", "4"), ("shd", "2", "43", "43"),
  ("sht", "2", "43", "43"), ("shtch", "2", "4", "4"), ("shtsh", "2", "4", "4"),
  ("st", "2", "43", "43"), ("stch", "2", "4", "4"), ("strs", "2", "4", "4"),
  ("strz", "2", "4", "4"), ("stsch", "2", "4", "4"), ("stsh", "2", "4", "4"),
  ("sz", "4", "4", "4"), ("szcs", "2", "4", "4"), ("szcz", "2", "4", "4"),
  ("szd", "2", "43", "43"), ("szt", "2", "43", "43"), ("tc", "4", "4", "4"),
  ("tch", "4", "4", "4"), ("th", "3", "3", "3"), ("trs", "4", "4", "4"), ("trz", "4", "4", "4"),
  ("ts", "4", "4", "4"), ("tsch", "4", "4", "4"), ("tsh", "4", "4", "4"), ("tsz", "4", "4", "4"),
  ("ttch", "4", "4", "4"), ("tts", "4", "4", "4"), ("ttsch", "4", "4", "4"),
  ("ttsz", "4", "4", "4"), ("ttz", "4", "4", "4"), ("tz", "4", "4", "4"), ("tzs", "4", "4", "4"),
  ("zd", "2", "43", "43"), ("zdz", "2", "4", "4"), ("zdzh", "2", "4", "4"),
  ("zh", "4", "4", "4"), ("zhd", "2", "43", "43"), ("zhdzh", "2", "4", "4"),
  ("zs", "4", "4", "4"), ("zsch", "4", "4", "4"), ("zsh", "4", "4", "4"),
  -- letters with several sounds
  ("c", "4|5", "4|5", "4|5"), ("ch", "4|5", "4|5", "4|5"), ("ck", "5|45", "5|45", "5|45"),
  ("j", "1|4", "|4", "|4"), ("rs", "4|94", "4|94", "4|94"), ("rz", "4|94", "4|94", "4|94")]

/-- The letters that are folded, each with its plain form. -/
def foldings : List (Char × Char) := [
  ('ß', 's'), ('à', 'a'), ('á', 'a'), ('â', 'a'), ('ã', 'a'), ('ä', 'a'), ('å', 'a'), ('æ', 'a'),
  ('ç', 'c'), ('è', 'e'), ('é', 'e'), ('ê', 'e'), ('ë', 'e'), ('ì', 'i'), ('í', 'i'), ('î', 'i'),
  ('ï', 'i'), ('ð', 'd'), ('ñ', 'n'), ('ò', 'o'), ('ó', 'o'), ('ô', 'o'), ('õ', 'o'), ('ö', 'o'),
  ('ø', 'o'), ('ù', 'u'), ('ú', 'u'), ('û', 'u'), ('ü', 'u'), ('ý', 'y'), ('þ', 'b'), ('ÿ', 'y'),
  ('ć', 'c'), ('ł', 'l'), ('ń', 'n'), ('ś', 's'), ('ź', 'z'), ('ż', 'z')]

/-- The rules of the rows. -/
def rules : List Rule :=
  rows.filterMap fun (pattern, atStart, beforeVowel, elsewhere) =>
    Rule.ofFields? pattern.toList atStart.toList beforeVowel.toList elsewhere.toList

/-- The Daitch-Mokotoff rule set. -/
def ruleSet : RuleSet := ⟨.ofList rules, .ofPairs foldings⟩

end Soundalike.Bundled
