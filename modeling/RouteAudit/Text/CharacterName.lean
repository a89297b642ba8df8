/-! # Names of characters

The names that the characters below 256 have in the Unicode character database, with the aliases of
controls. `codeNamed?` finds a character by its name, in capital or small letters. Characters from
256 on are not in the tables, and their names are not found. -/

namespace RouteAudit.Text

/-- The names of the characters from the space to the tilde. -/
def asciiNames : List String :=
  ["SPACE", "EXCLAMATION MARK", "QUOTATION MARK", "NUMBER SIGN", "DOLLAR SIGN", "PERCENT SIGN",
   "AMPERSAND", "APOSTROPHE", "LEFT PARENTHESIS", "RIGHT PARENTHESIS", "ASTERISK", "PLUS SIGN",
   "COMMA", "HYPHEN-MINUS", "FULL STOP", "SOLIDUS", "DIGIT ZERO", "DIGIT ONE", "DIGIT TWO",
   "DIGIT THREE", "DIGIT FOUR", "DIGIT FIVE", "DIGIT SIX", "DIGIT SEVEN", "DIGIT EIGHT",
   "DIGIT NINE", "COLON", "SEMICOLON", "LESS-THAN SIGN", "EQUALS SIGN", "GREATER-THAN SIGN",
   "QUESTION MARK", "COMMERCIAL AT", "LATIN CAPITAL LETTER A", "LATIN CAPITAL LETTER B",
   "LATIN CAPITAL LETTER C", "LATIN CAPITAL LETTER D", "LATIN CAPITAL LETTER E",
   "LATIN CAPITAL LETTER F", "LATIN CAPITAL LETTER G", "LATIN CAPITAL LETTER H",
   "LATIN CAPITAL LETTER I", "LATIN CAPITAL LETTER J", "LATIN CAPITAL LETTER K",
   "LATIN CAPITAL LETTER L", "LATIN CAPITAL LETTER M", "LATIN CAPITAL LETTER N",
   "LATIN CAPITAL LETTER O", "LATIN CAPITAL LETTER P", "LATIN CAPITAL LETTER Q",
   "LATIN CAPITAL LETTER R", "LATIN CAPITAL LETTER S", "LATIN CAPITAL LETTER T",
   "LATIN CAPITAL LETTER U", "LATIN CAPITAL LETTER V", "LATIN CAPITAL LETTER W",
   "LATIN CAPITAL LETTER X", "LATIN CAPITAL LETTER Y", "LATIN CAPITAL LETTER Z",
   "LEFT SQUARE BRACKET", "REVERSE SOLIDUS", "RIGHT SQUARE BRACKET", "CIRCUMFLEX ACCENT",
   "LOW LINE", "GRAVE ACCENT", "LATIN SMALL LETTER A", "LATIN SMALL LETTER B",
   "LATIN SMALL LETTER C", "LATIN SMALL LETTER D", "LATIN SMALL LETTER E", "LATIN SMALL LETTER F",
   "LATIN SMALL LETTER G", "LATIN SMALL LETTER H", "LATIN SMALL LETTER I", "LATIN SMALL LETTER J",
   "LATIN SMALL LETTER K", "LATIN SMALL LETTER L", "LATIN SMALL LETTER M", "LATIN SMALL LETTER N",
   "LATIN SMALL LETTER O", "LATIN SMALL LETTER P", "LATIN SMALL LETTER Q", "LATIN SMALL LETTER R",
   "LATIN SMALL LETTER S", "LATIN SMALL LETTER T", "LATIN SMALL LETTER U", "LATIN SMALL LETTER V",
   "LATIN SMALL LETTER W", "LATIN SMALL LETTER X", "LATIN SMALL LETTER Y", "LATIN SMALL LETTER Z",
   "LEFT CURLY BRACKET", "VERTICAL LINE", "RIGHT CURLY BRACKET", "TILDE"]

/-- The names of the characters from the no-break space on. -/
def latinNames : List String :=
  ["NO-BREAK SPACE", "INVERTED EXCLAMATION MARK", "CENT SIGN", "POUND SIGN", "CURRENCY SIGN",
   "YEN SIGN", "BROKEN BAR", "SECTION SIGN", "DIAERESIS", "COPYRIGHT SIGN",
   "FEMININE ORDINAL INDICATOR", "LEFT-POINTING DOUBLE ANGLE QUOTATION MARK", "NOT SIGN",
   "SOFT HYPHEN", "REGISTERED SIGN", "MACRON", "DEGREE SIGN", "PLUS-MINUS SIGN", "SUPERSCRIPT TWO",
   "SUPERSCRIPT THREE", "ACUTE ACCENT", "MICRO SIGN", "PILCROW SIGN", "MIDDLE DOT", "CEDILLA",
   "SUPERSCRIPT ONE", "MASCULINE ORDINAL INDICATOR", "RIGHT-POINTING DOUBLE ANGLE QUOTATION MARK",
   "VULGAR FRACTION ONE QUARTER", "VULGAR FRACTION ONE HALF", "VULGAR FRACTION THREE QUARTERS",
   "INVERTED QUESTION MARK", "LATIN CAPITAL LETTER A WITH GRAVE",
   "LATIN CAPITAL LETTER A WITH ACUTE", "LATIN CAPITAL LETTER A WITH CIRCUMFLEX",
   "LATIN CAPITAL LETTER A WITH TILDE", "LATIN CAPITAL LETTER A WITH DIAERESIS",
   "LATIN CAPITAL LETTER A WITH RING ABOVE", "LATIN CAPITAL LETTER AE",
   "LATIN CAPITAL LETTER C WITH CEDILLA", "LATIN CAPITAL LETTER E WITH GRAVE",
   "LATIN CAPITAL LETTER E WITH ACUTE", "LATIN CAPITAL LETTER E WITH CIRCUMFLEX",
   "LATIN CAPITAL LETTER E WITH DIAERESIS", "LATIN CAPITAL LETTER I WITH GRAVE",
   "LATIN CAPITAL LETTER I WITH ACUTE", "LATIN CAPITAL LETTER I WITH CIRCUMFLEX",
   "LATIN CAPITAL LETTER I WITH DIAERESIS", "LATIN CAPITAL LETTER ETH",
   "LATIN CAPITAL LETTER N WITH TILDE", "LATIN CAPITAL LETTER O WITH GRAVE",
   "LATIN CAPITAL LETTER O WITH ACUTE", "LATIN CAPITAL LETTER O WITH CIRCUMFLEX",
   "LATIN CAPITAL LETTER O WITH TILDE", "LATIN CAPITAL LETTER O WITH DIAERESIS",
   "MULTIPLICATION SIGN", "LATIN CAPITAL LETTER O WITH STROKE",
   "LATIN CAPITAL LETTER U WITH GRAVE", "LATIN CAPITAL LETTER U WITH ACUTE",
   "LATIN CAPITAL LETTER U WITH CIRCUMFLEX", "LATIN CAPITAL LETTER U WITH DIAERESIS",
   "LATIN CAPITAL LETTER Y WITH ACUTE", "LATIN CAPITAL LETTER THORN", "LATIN SMALL LETTER SHARP S",
   "LATIN SMALL LETTER A WITH GRAVE", "LATIN SMALL LETTER A WITH ACUTE",
   "LATIN SMALL LETTER A WITH CIRCUMFLEX", "LATIN SMALL LETTER A WITH TILDE",
   "LATIN SMALL LETTER A WITH DIAERESIS", "LATIN SMALL LETTER A WITH RING ABOVE",
   "LATIN SMALL LETTER AE", "LATIN SMALL LETTER C WITH CEDILLA", "LATIN SMALL LETTER E WITH GRAVE",
   "LATIN SMALL LETTER E WITH ACUTE", "LATIN SMALL LETTER E WITH CIRCUMFLEX",
   "LATIN SMALL LETTER E WITH DIAERESIS", "LATIN SMALL LETTER I WITH GRAVE",
   "LATIN SMALL LETTER I WITH ACUTE", "LATIN SMALL LETTER I WITH CIRCUMFLEX",
   "LATIN SMALL LETTER I WITH DIAERESIS", "LATIN SMALL LETTER ETH",
   "LATIN SMALL LETTER N WITH TILDE", "LATIN SMALL LETTER O WITH GRAVE",
   "LATIN SMALL LETTER O WITH ACUTE", "LATIN SMALL LETTER O WITH CIRCUMFLEX",
   "LATIN SMALL LETTER O WITH TILDE", "LATIN SMALL LETTER O WITH DIAERESIS", "DIVISION SIGN",
   "LATIN SMALL LETTER O WITH STROKE", "LATIN SMALL LETTER U WITH GRAVE",
   "LATIN SMALL LETTER U WITH ACUTE", "LATIN SMALL LETTER U WITH CIRCUMFLEX",
   "LATIN SMALL LETTER U WITH DIAERESIS", "LATIN SMALL LETTER Y WITH ACUTE",
   "LATIN SMALL LETTER THORN", "LATIN SMALL LETTER Y WITH DIAERESIS"]

/-- Controls have no names, but aliases; so have a few other characters. -/
def nameAliases : List (Nat × List String) :=
  [(0, ["NULL", "NUL"]), (1, ["START OF HEADING", "SOH"]), (2, ["START OF TEXT", "STX"]),
   (3, ["END OF TEXT", "ETX"]), (4, ["END OF TRANSMISSION", "EOT"]), (5, ["ENQUIRY", "ENQ"]),
   (6, ["ACKNOWLEDGE", "ACK"]), (7, ["ALERT", "BEL"]), (8, ["BACKSPACE", "BS"]),
   (9, ["CHARACTER TABULATION", "HORIZONTAL TABULATION", "HT", "TAB"]),
   (10, ["LINE FEED", "NEW LINE", "END OF LINE", "LF", "NL", "EOL"]),
   (11, ["LINE TABULATION", "VERTICAL TABULATION", "VT"]), (12, ["FORM FEED", "FF"]),
   (13, ["CARRIAGE RETURN", "CR"]), (14, ["SHIFT OUT", "LOCKING-SHIFT ONE", "SO"]),
   (15, ["SHIFT IN", "LOCKING-SHIFT ZERO", "SI"]), (16, ["DATA LINK ESCAPE", "DLE"]),
   (17, ["DEVICE CONTROL ONE", "DC1"]), (18, ["DEVICE CONTROL TWO", "DC2"]),
   (19, ["DEVICE CONTROL THREE", "DC3"]), (20, ["DEVICE CONTROL FOUR", "DC4"]),
   (21, ["NEGATIVE ACKNOWLEDGE", "NAK"]), (22, ["SYNCHRONOUS IDLE", "SYN"]),
   (23, ["END OF TRANSMISSION BLOCK", "ETB"]), (24, ["CANCEL", "CAN"]),
   (25, ["END OF MEDIUM", "EOM"]), (26, ["SUBSTITUTE", "SUB"]), (27, ["ESCAPE", "ESC"]),
   (28, ["INFORMATION SEPARATOR FOUR", "FILE SEPARATOR", "FS"]),
   (29, ["INFORMATION SEPARATOR THREE", "GROUP SEPARATOR", "GS"]),
   (30, ["INFORMATION SEPARATOR TWO", "RECORD SEPARATOR", "RS"]),
   (31, ["INFORMATION SEPARATOR ONE", "UNIT SEPARATOR", "US"]), (32, ["SP"]),
   (127, ["DELETE", "DEL"]), (128, ["PADDING CHARACTER", "PAD"]),
   (129, ["HIGH OCTET PRESET", "HOP"]), (130, ["BREAK PERMITTED HERE", "BPH"]),
   (131, ["NO BREAK HERE", "NBH"]), (132, ["INDEX", "IND"]), (133, ["NEXT LINE", "NEL"]),
   (134, ["START OF SELECTED AREA", "SSA"]), (135, ["END OF SELECTED AREA", "ESA"]),
   (136, ["CHARACTER TABULATION SET", "HORIZONTAL TABULATION SET", "HTS"]),
   (137, ["CHARACTER TABULATION WITH JUSTIFICATION", "HORIZONTAL TABULATION WITH JUSTIFICATION",
     "HTJ"]), (138, ["LINE TABULATION SET", "VERTICAL TABULATION SET", "VTS"]),
   (139, ["PARTIAL LINE FORWARD", "PARTIAL LINE DOWN", "PLD"]),
   (140, ["PARTIAL LINE BACKWARD", "PARTIAL LINE UP", "PLU"]),
   (141, ["REVERSE LINE FEED", "REVERSE INDEX", "RI"]),
   (142, ["SINGLE SHIFT TWO", "SINGLE-SHIFT-2", "SS2"]),
   (143, ["SINGLE SHIFT THREE", "SINGLE-SHIFT-3", "SS3"]), (144, ["DEVICE CONTROL STRING", "DCS"]),
   (145, ["PRIVATE USE ONE", "PRIVATE USE-1", "PU1"]),
   (146, ["PRIVATE USE TWO", "PRIVATE USE-2", "PU2"]), (147, ["SET TRANSMIT STATE", "STS"]),
   (148, ["CANCEL CHARACTER", "CCH"]), (149, ["MESSAGE WAITING", "MW"]),
   (150, ["START OF GUARDED AREA", "START OF PROTECTED AREA", "SPA"]),
   (151, ["END OF GUARDED AREA", "END OF PROTECTED AREA", "EPA"]),
   (152, ["START OF STRING", "SOS"]), (153, ["SINGLE GRAPHIC CHARACTER INTRODUCER", "SGC"]),
   (154, ["SINGLE CHARACTER INTRODUCER", "SCI"]), (155, ["CONTROL SEQUENCE INTRODUCER", "CSI"]),
   (156, ["STRING TERMINATOR", "ST"]), (157, ["OPERATING SYSTEM COMMAND", "OSC"]),
   (158, ["PRIVACY MESSAGE", "PM"]), (159, ["APPLICATION PROGRAM COMMAND", "APC"]),
   (160, ["NBSP"]), (173, ["SHY"])]

/-- The names that are known, each with the number of its character. -/
def characterNames : List (String × Nat) :=
  asciiNames.zipIdx 32 ++ latinNames.zipIdx 160 ++
    nameAliases.flatMap fun a => a.2.map fun name => (name, a.1)

/-- The number of the character with a name. -/
def codeNamed? (name : String) : Option Nat :=
  characterNames.lookup (String.ofList (name.toList.map Char.toUpper))

end RouteAudit.Text
