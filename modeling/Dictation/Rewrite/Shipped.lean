import Dictation.Rewrite.Rule
/-!
# The shipped rules

From spoken words back to typed text. Spelled-out words are hidden by the first rule and shown again
by the last one. Digits come before the words for casing, and those before punctuation, so that a
rule finds what it needs; longer operators come before shorter ones.
-/
namespace Dictation.RuleTable

set_option maxRecDepth 10000 in
def shippedRows : List (String × String) := [
  ("\\bspell out\\s+(?P<word>\\S+)", ":spell_out_escape"),
  ("\\s*\\bnew[ -]line\\b\\s*", ":new_line"),
  ("\\s*\\btab[ -]key\\b\\s*", ":tab_key"),
  ("\\s*\\bback ?space\\b\\s*", ":backspace"),
  ("\\s*\\bfull stop\\b", "."),
  ("\\bzero\\b", "0"),
  ("\\bone\\b", "1"),
  ("\\btwo\\b", "2"),
  ("\\bthree\\b", "3"),
  ("\\bfour\\b", "4"),
  ("\\bfive\\b", "5"),
  ("\\bsix\\b", "6"),
  ("\\bseven\\b", "7"),
  ("\\beight\\b", "8"),
  ("\\bnine\\b", "9"),
  ("\\d(?:\\s+\\d)+", ":collapse_spaces"),
  ("\\b0\\s+x(?:\\s+(?:\\d+|cap\\s+[a-f]|[a-f]))+\\b", ":hex_number"),
  ("(\\d)\\s+dot\\s+(\\d)", "$\x7b1\x7d.$\x7b2\x7d"),
  ("(^|[^\\d\\s]\\s+)minus\\s+(\\d)", "$\x7b1\x7d-$\x7b2\x7d"),
  ("(^|[^\\d\\s]\\s+)plus\\s+(\\d)", "$\x7b1\x7d+$\x7b2\x7d"),
  ("\\bcap camel\\s+(?P<next>\\w+(?:\\s+\\w+)*)", ":cap_camel"),
  ("\\bcamel\\s+(?P<next>\\w+(?:\\s+\\w+)*)", ":camel"),
  ("\\ball caps\\s+(?P<next>\\w+(?:\\s+\\w+)*)", ":all_caps"),
  ("\\bcap\\s+(?P<word>\\w+)", ":caps"),
  ("\\blowercase\\s+(?P<word>\\w+)", ":lowercase"),
  ("\"quote\\s+(?P<body>.*?)\\s+\"quote", "\"$\x7bbody\x7d\""),
  ("\"\"\"triple-quote\\b", "\"\"\""),
  ("'''triple-single-quote\\b", "'''"),
  ("\\.\\.\\.ellipsis\\b", "..."),
  ("!=not-equal\\b", "!="),
  ("==equal-equal\\b", "=="),
  ("<=less-equal\\b", "<="),
  (">=greater-equal\\b", ">="),
  ("<<shift-left\\b", "<<"),
  (">>shift-right\\b", ">>"),
  ("\\*\\*asterisk-asterisk\\b", "**"),
  ("\\*=times-equals\\b", "*="),
  ("\\+=plus-equals\\b", "+="),
  ("-=minus-equals\\b", "-="),
  ("/=divide-equals\\b", "/="),
  ("//floor-divide\\b", "//"),
  ("->arrow\\b", "->"),
  ("=>fat-arrow\\b", "=>"),
  ("::double-colon\\b", ":::"),
  (":=walrus\\b", "::="),
  ("&&and-and\\b", "&&"),
  ("\\|\\|or-or\\b", "||"),
  ("\\s*\\((?:open|left)-paren\\b\\s*", "("),
  ("\\s*\\[(?:open|left)-bracket\\b\\s*", "["),
  ("\\s*\\\x7b(?:open|left)-brace\\b\\s*", "\x7b"),
  ("\\s*\\)(?:close|right)-paren\\b", ")"),
  ("\\s*\\](?:close|right)-bracket\\b", "]"),
  ("\\s*\\\x7d(?:close|right)-brace\\b", "\x7d"),
  ("\\s*:colon\\b", "::"),
  ("\\s*,comma\\b", ","),
  ("\\s*;semi-colon\\b", ";"),
  ("\\s*(?P<this>[.?!])(?:period|question-mark|exclamation-point)\\b(?:\\s+(?P<next>\\w+))?", ":cap_next"),
  ("\\s*\\.(?:dot|point)\\b\\s*", "."),
  ("\\s*_under(?:-score)?\\b\\s*", "_"),
  ("\\s*\\*asterisk\\b\\s*", "*"),
  ("\\s*-hyphen\\b\\s*", "-"),
  ("\\s*@at\\b\\s*", "@"),
  ("\\s*/slash\\b\\s*", "/"),
  ("\\s*\"double-quote\\b\\s*", "\""),
  ("\\s*\\\\back-slash\\b\\s*", "\\"),
  ("#sharp-sign\\b", "#"),
  ("\\$dollar-sign\\b", "$$"),
  ("%percent\\b", "%"),
  ("&ampersand\\b", "&"),
  ("'quote\\b", "'"),
  ("\\+plus\\b", "+"),
  ("<less-than\\b", "<"),
  ("=equals\\b", "="),
  (">greater-than\\b", ">"),
  ("\\^caret\\b", "^"),
  ("\x60back-tick\\b", "\x60"),
  ("\\|bar\\b", "|"),
  ("~tilde\\b", "~"),
  ("__dunder\\s+(?P<next>.*?)\\s*__dunder", ":dunder_wrap"),
  ("\\bdunder\\s+(?P<next>\\w+)", ":dunder_wrap"),
  ("__dunder", "__"),
  ("\\bno-space\\s+(.+?)\\s+spaces\\b", ":collapse_spaces"),
  ("\\s*\\bno-space\\b\\s*", ""),
  ("\\x\x7bE000\x7d(?:[^\\x\x7bE000\x7d\\s]\\x\x7bE000\x7d)+", ":spell_out_unescape")]

def shipped : RuleTable :=
  ⟨shippedRows.filterMap fun e => (Rule.ofFields [e.1.toList, e.2.toList]).toOption⟩

end Dictation.RuleTable
