import SchemaRegistry.Unicode.Script

/-!
The scripts in which a code point is used. Most code points are used in the script that they belong
to. Those that several scripts share belong to none of these alone, or to one of them, and are
listed here with each of the others; the two scripts for common and inherited code points leave them
out.
-/

namespace SchemaRegistry.Unicode

/-- A script, by its first name in `scriptRows`, and the code points that are used in it but do not
belong to it. -/
def sharedRows : List (String × List String) := [
  ("adlam", ["61F 640 204F 2E41"]),
  ("arabic", ["60C 61B 61F 640 64B-655 670 204F 2E41 FD3E-FD3F 102E0-102FB"]),
  ("armenian", ["308"]),
  ("avestan", ["B7 2E30-2E31"]),
  ("bengali", ["2BC 951-952 964-965 1CD0 1CD2 1CD5-1CD6 1CD8 1CE1 1CEA 1CED 1CF2 1CF5-1CF7 A8F1"]),
  ("bopomofo", [
    "2C7 2C9-2CB 2D9 3001-3003 3008-3011 3013-301F 302A-302D 3030 3037 30FB FE45-FE46 FF61-FF65"]),
  ("buginese", ["A9CF"]),
  ("buhid", ["1735-1736"]),
  ("carian", ["B7 205A 205D 2E31"]),
  ("caucasianalbanian", ["304 331 35E"]),
  ("chakma", ["9E6-9EF 1040-1049"]),
  ("cherokee", ["300-302 304 30B-30C 323-324 330-331"]),
  ("coptic", ["B7 300 304-305 307 374-375 2E17 102E0-102FB"]),
  ("cypriot", ["10100-10102 10107-10133 10137-1013F"]),
  ("cyprominoan", ["10100-10101"]),
  ("cyrillic", ["2BC 300-302 304 306 308 30B 311 485-486 1DF8 2E43"]),
  ("devanagari", ["2BC 951-952 964-965 1CD0-1CF6 1CF8-1CF9 20F0 A830-A839"]),
  ("dogra", ["964-96F A830-A839"]),
  ("duployan", ["B7 307-308 30A 323-324 2E3C 1BCA0-1BCA3"]),
  ("elbasan", ["B7 305"]),
  ("ethiopic", ["30E"]),
  ("georgian", ["B7 589 10FB 205A 2E31"]),
  ("glagolitic", ["B7 303 305 484 487 589 10FB 205A 2E43 A66F"]),
  ("gothic", ["B7 304-305 308 331"]),
  ("grantha", [
    "951-952 964-965 BE6-BF3 1CD0 1CD2-1CD3 1CF2-1CF4 1CF8-1CF9 20F0 1133B 11FD0-11FD1 11FD3"]),
  ("greek", ["B7 300-301 304 306 308 313 342 345 374 1DC0-1DC1 205D"]),
  ("gujarati", ["951-952 964-965 A830-A839"]),
  ("gunjalagondi", ["B7 964-965"]),
  ("gurmukhi", ["951-952 964-965 A830-A839"]),
  ("han", [
    "B7 2FF0-2FFF 3001-3003 3006 3008-3011 3013-301F 302A-302D 3030 3037 303C-303F 30FB 3190-319F",
    "31C0-31E5 31EF 3220-3247 3280-32B0 32C0-32CB 32FF 3358-3370 337B-337F 33E0-33FE A700-A707",
    "FE45-FE46 FF61-FF65 1D360-1D371 1F250-1F251"]),
  ("hangul", ["3001-3003 3008-3011 3013-301F 3030 3037 30FB FE45-FE46 FF61-FF65"]),
  ("hanifirohingya", ["60C 61B 61F 640 6D4"]),
  ("hanunoo", ["1735-1736"]),
  ("hebrew", ["307-308"]),
  ("hiragana", [
    "3001-3003 3008-3011 3013-301F 3030-3035 3037 303C-303D 3099-309C 30A0 30FB-30FC FE45-FE46",
    "FF61-FF65 FF70 FF9E-FF9F"]),
  ("javanese", ["A9CF"]),
  ("kaithi", ["966-96F 2E31 A830-A839"]),
  ("kannada", ["951-952 964-965 1CD0 1CD2-1CD3 1CDA 1CF2 1CF4 A830-A835"]),
  ("katakana", [
    "305 323 3001-3003 3008-3011 3013-301F 3030-3035 3037 303C-303D 3099-309C 30A0 30FB-30FC",
    "FE45-FE46 FF61-FF65 FF70 FF9E-FF9F"]),
  ("kayahli", ["A92E"]),
  ("khojki", ["AE6-AEF A830-A839"]),
  ("khudawadi", ["964-965 A830-A839"]),
  ("latin", [
    "B7 2BC 2C7 2C9-2CB 2CD 2D7 2D9 300-30E 310-311 313 323-325 32D-32E 330-331 358 35E 363-36F",
    "485-486 951-952 10FB 1DF8 202F 20F0 2E17 A700-A707 A92E"]),
  ("limbu", ["965"]),
  ("lineara", ["10107-10133"]),
  ("linearb", ["10100-10102 10107-10133 10137-1013F"]),
  ("lisu", ["2BC 2CD 300A-300B"]),
  ("lycian", ["205A"]),
  ("lydian", ["B7 2E31"]),
  ("mahajani", ["B7 964-96F A830-A839"]),
  ("malayalam", ["951-952 964-965 1CDA 1CF2 A830-A832"]),
  ("mandaic", ["640"]),
  ("manichaean", ["640"]),
  ("masaramgondi", ["964-965"]),
  ("meroitichieroglyphs", ["205D"]),
  ("modi", ["A830-A839"]),
  ("mongolian", ["1802-1803 1805 202F 3001-3002 3008-300B"]),
  ("multani", ["A66-A6F"]),
  ("myanmar", ["A92E"]),
  ("nandinagari", ["951 964-965 CE6-CEF 1CE9 1CF2 1CFA A830-A835"]),
  ("newa", ["951-952 1CD5 1CD7-1CD8 1CE2 1CE9 1CEB 1CED"]),
  ("nko", ["60C 61B 61F FD3E-FD3F"]),
  ("oldhungarian", ["205A 205D 2E31 2E41"]),
  ("oldpermic", ["B7 300 306-308 313 483"]),
  ("oldturkic", ["205A 2E30"]),
  ("olduyghur", ["640 10AF2"]),
  ("oriya", ["951-952 964-965 1CDA 1CF2"]),
  ("osage", ["301 304 30B 358"]),
  ("phagspa", ["1802-1803 1805 202F 3002"]),
  ("psalterpahlavi", ["640"]),
  ("runic", ["16EB-16ED"]),
  ("samaritan", ["2E31"]),
  ("sharada", ["951 1CD7 1CD9 1CDC-1CDD 1CE0 1CEA 1CED A830-A835 A838"]),
  ("shavian", ["B7"]),
  ("sinhala", ["964-965 1CF2"]),
  ("sogdian", ["640"]),
  ("sylotinagri", ["964-965 9E6-9EF"]),
  ("syriac", [
    "303-304 307-308 30A 323-325 32D-32E 330-331 60C 61B-61C 61F 640 64B-655 670 1DF8 1DFA"]),
  ("tagalog", ["1735-1736"]),
  ("tagbanwa", ["1735-1736"]),
  ("taile", ["300-301 307-308 30C 1040-1049"]),
  ("takri", ["964-965 A830-A839"]),
  ("tamil", ["951-952 964-965 1CDA A8F3 11301 11303 1133B-1133C"]),
  ("tangut", ["2FF0-2FFF 31EF"]),
  ("telugu", ["951-952 964-965 1CD5-1CD6 1CD8 1CDA 1CF2"]),
  ("thaana", ["60C 61B-61C 61F 660-669 FDF2 FDFD"]),
  ("thai", ["2BC 2D7 303 331"]),
  ("tibetan", ["3008-300B"]),
  ("tifinagh", ["302 304 306-309 323"]),
  ("tirhuta", ["951-952 964-965 1CD5 1CE2 1CF2 A830-A839"]),
  ("toto", ["2BC"]),
  ("yezidi", ["60C 61B 61F 660-669"]),
  ("yi", ["3001-3002 3008-3011 3014-301B 30FB FF61-FF65"])]

def shared : CodePointSet :=
  .ofRanges (sharedRows.flatMap fun row => (CodePointSet.ofLines row.2).ranges)

/-- The code points that are used in the script with a name in lower case and without
separators. -/
def scriptExtension? (name : String) : Option CodePointSet := do
  let (names, lines) ← scriptRows.find? fun row => row.1.contains name
  let own := CodePointSet.ofLines lines
  if names.contains "common" || names.contains "inherited" then return own.difference shared
  return own.union (.ofLines ((names.findSome? fun name => sharedRows.lookup name).getD []))

end SchemaRegistry.Unicode
