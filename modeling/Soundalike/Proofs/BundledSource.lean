import Mathlib.Data.List.Basic
import Soundalike.Rule.Bundled

set_option autoImplicit false

/-!
# The source of the Daitch-Mokotoff rules

The Daitch-Mokotoff rules are a rule source like any other.  Read as one, it states the rules row by
row and then the foldings (`statements_source`), so the rule set that is used where no other is
named is what reading it gives (`parse_source`), and what holds of the rules of every source holds
of these too.
-/

namespace Soundalike

/-- Of rules and pairs that are stated one after the other each comes into its own table. -/
theorem RuleSet.ofStatements_append (rules : List Rule) (pairs : List (Char × Char)) :
    ofStatements (rules.map .rule ++ pairs.map fun (letter, folded) => .folding letter folded) =
      ⟨.ofList rules, .ofPairs pairs⟩ := by
  simp [ofStatements, List.filterMap_append, List.filterMap_map, Function.comp_def,
    Statement.rule?, Statement.folding?]

namespace Bundled

/-- The rules and foldings as they are written. -/
def source : String := r#"/*
 * Daitch-Mokotoff Soundex coding rules.
 *
 * Each rule line holds four whitespace-separated fields:
 *
 *   "pattern" "at start of word" "before a vowel" "in other cases"
 *
 * A replacement field may list alternatives separated by '|'; when branching
 * is requested every alternative produces its own candidate code. An empty
 * replacement ("") emits nothing.
 *
 * Lines of the form x=y fold the character x into y before rules are applied.
 */

// Format
// "pattern" "replacement at start of word" "replacement before a vowel" "replacement in other cases"

// Vowels

"a" "0" "" ""
"e" "0" "" ""
"i" "0" "" ""
"o" "0" "" ""
"u" "0" "" ""

// Consonants

"b" "7" "7" "7"
"d" "3" "3" "3"
"f" "7" "7" "7"
"g" "5" "5" "5"
"h" "5" "5" ""
"k" "5" "5" "5"
"l" "8" "8" "8"
"m" "6" "6" "6"
"n" "6" "6" "6"
"p" "7" "7" "7"
"q" "5" "5" "5"
"r" "9" "9" "9"
"s" "4" "4" "4"
"t" "3" "3" "3"
"v" "7" "7" "7"
"w" "7" "7" "7"
"x" "5" "54" "54"
"y" "1" "" ""
"z" "4" "4" "4"

// Romanian t-cedilla and t-comma are equivalent
"ţ" "3|4" "3|4" "3|4"
"ț" "3|4" "3|4" "3|4"

// Polish e-ogonek and a-ogonek: default case is either not coded or 6
"ę" "" "" "|6"
"ą" "" "" "|6"

// Vowel clusters

"ai" "0" "1" ""
"aj" "0" "1" ""
"ay" "0" "1" ""
"au" "0" "7" ""
"ei" "0" "1" ""
"ej" "0" "1" ""
"ey" "0" "1" ""
"eu" "1" "1" ""
"ia" "1" "" ""
"ie" "1" "" ""
"io" "1" "" ""
"iu" "1" "" ""
"oi" "0" "1" ""
"oj" "0" "1" ""
"oy" "0" "1" ""
"ue" "0" "" ""
"ui" "0" "1" ""
"uj" "0" "1" ""
"uy" "0" "1" ""

// Consonant clusters

"chs" "5" "54" "54"
"cz" "4" "4" "4"
"cs" "4" "4" "4"
"csz" "4" "4" "4"
"czs" "4" "4" "4"
"drz" "4" "4" "4"
"drs" "4" "4" "4"
"ds" "4" "4" "4"
"dsh" "4" "4" "4"
"dsz" "4" "4" "4"
"dz" "4" "4" "4"
"dzh" "4" "4" "4"
"dzs" "4" "4" "4"
"dt" "3" "3" "3"
"fb" "7" "7" "7"
"kh" "5" "5" "5"
"ks" "5" "54" "54"
"mn" "66" "66" "66"
"nm" "66" "66" "66"
"pf" "7" "7" "7"
"ph" "7" "7" "7"
"sc" "2" "4" "4"
"sch" "4" "4" "4"
"schd" "2" "43" "43"
"scht" "2" "43" "43"
"schtch" "2" "4" "4"
"schtsch" "2" "4" "4"
"schtsh" "2" "4" "4"
"sd" "2" "43" "43"
"sh" "4" "4" "4"
"shch" "2" "4" "4"
"shd" "2" "43" "43"
"sht" "2" "43" "43"
"shtch" "2" "4" "4"
"shtsh" "2" "4" "4"
"st" "2" "43" "43"
"stch" "2" "4" "4"
"strs" "2" "4" "4"
"strz" "2" "4" "4"
"stsch" "2" "4" "4"
"stsh" "2" "4" "4"
"sz" "4" "4" "4"
"szcs" "2" "4" "4"
"szcz" "2" "4" "4"
"szd" "2" "43" "43"
"szt" "2" "43" "43"
"tc" "4" "4" "4"
"tch" "4" "4" "4"
"th" "3" "3" "3"
"trs" "4" "4" "4"
"trz" "4" "4" "4"
"ts" "4" "4" "4"
"tsch" "4" "4" "4"
"tsh" "4" "4" "4"
"tsz" "4" "4" "4"
"ttch" "4" "4" "4"
"tts" "4" "4" "4"
"ttsch" "4" "4" "4"
"ttsz" "4" "4" "4"
"ttz" "4" "4" "4"
"tz" "4" "4" "4"
"tzs" "4" "4" "4"
"zd" "2" "43" "43"
"zdz" "2" "4" "4"
"zdzh" "2" "4" "4"
"zh" "4" "4" "4"
"zhd" "2" "43" "43"
"zhdzh" "2" "4" "4"
"zs" "4" "4" "4"
"zsch" "4" "4" "4"
"zsh" "4" "4" "4"

// Branching rules

"c" "4|5" "4|5" "4|5"
"ch" "4|5" "4|5" "4|5"
"ck" "5|45" "5|45" "5|45"
"j" "1|4" "|4" "|4"
"rs" "4|94" "4|94" "4|94"
"rz" "4|94" "4|94" "4|94"

// ASCII folding

ß=s
à=a
á=a
â=a
ã=a
ä=a
å=a
æ=a
ç=c
è=e
é=e
ê=e
ë=e
ì=i
í=i
î=i
ï=i
ð=d
ñ=n
ò=o
ó=o
ô=o
õ=o
ö=o
ø=o
ù=u
ú=u
û=u
ü=u
ý=y
þ=b
ÿ=y
ć=c
ł=l
ń=n
ś=s
ź=z
ż=z
"#

-- the characters of the source make a list that is nested this deep
set_option maxRecDepth 20000 in
/-- The source states the rules of the rows, and then the foldings. -/
theorem statements_source :
    Source.statements source.toList =
      .ok (rules.map .rule ++ foldings.map fun (letter, folded) => .folding letter folded) := by
  rw [source, String.toList_ofList]
  decide +kernel

/-- The rule set is what reading the source gives. -/
theorem parse_source : RuleSet.parse source.toList = .ok ruleSet := by
  rw [RuleSet.parse, statements_source]
  exact congrArg Except.ok (RuleSet.ofStatements_append rules foldings)

end Bundled

end Soundalike
