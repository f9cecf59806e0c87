import BcmPlatform.Lib.Strtoul

/-! `NexusIrMap`: the key map of an IR remote is loaded from a file of lines that pair an IR code with the name of a key. The
    tokenizer that reads the file is a parameter. -/

namespace BcmPlatform.Ir
open Lib

/-! ### The tokenizer -/

/-- The operations of `Tokenizer` that the parser uses. -/
structure Tokenizer (σ : Type) where
  isEof : σ → Bool
  isEol : σ → Bool
  peekChar : σ → Char
  skipDelimiters : List Char → σ → σ
  nextToken : List Char → σ → List Char × σ
  nextLine : σ → σ

/-- Whether a character ends a token; a line end does so, too. The null that ends the string of delimiters may count as one
    of them. -/
def isDelimiter (nul : Bool) (delimiters : List Char) (c : Char) : Bool := c ∈ delimiters ∨ (nul = true ∧ c = '\x00')

/-- What the parser relies on: `rest` is the part of the file that was not read yet, and no token, delimiter or position goes
    past the end of a line other than by `nextLine`. -/
structure Tokenizer.Laws {σ : Type} (t : Tokenizer σ) (nul : Bool) (rest : σ → List Char) : Prop where
  isEof : ∀ s, t.isEof s = true ↔ rest s = []
  isEol : ∀ s, t.isEol s = true ↔ (rest s).head?.getD '\n' = '\n'
  peekChar : ∀ s c, (rest s).head? = some c → t.peekChar s = c
  skipDelimiters : ∀ d s, rest (t.skipDelimiters d s) = (rest s).dropWhile fun c => c ≠ '\n' ∧ isDelimiter nul d c
  nextToken : ∀ d s, (t.nextToken d s).1 = (rest s).takeWhile fun c => c ≠ '\n' ∧ ¬ isDelimiter nul d c
  nextToken_rest : ∀ d s, rest (t.nextToken d s).2 = (rest s).dropWhile fun c => c ≠ '\n' ∧ ¬ isDelimiter nul d c
  nextLine : ∀ s, rest (t.nextLine s) = ((rest s).dropWhile (· ≠ '\n')).tail

/-- `WHITESPACE` -/
def whitespace : List Char := [' ', '\t', '\r']

/-! ### Keys -/

/-- The names of `linux_keys`, each of which stands for a `KEY_` constant. -/
def linuxKeys : List String :=
  ["ESC", "1", "2", "3", "4", "5", "6", "7", "8", "9", "0", "MINUS", "EQUAL", "BACKSPACE", "TAB", "Q", "W", "E", "R", "T", "Y",
    "U", "I", "O", "P", "LEFTBRACE", "RIGHTBRACE", "ENTER", "LEFTCTRL", "A", "S", "D", "F", "G", "H", "J", "K", "L",
    "SEMICOLON", "APOSTROPHE", "GRAVE", "LEFTSHIFT", "BACKSLASH", "Z", "X", "C", "V", "B", "N", "M", "COMMA", "DOT", "SLASH",
    "RIGHTSHIFT", "KPASTERISK", "LEFTALT", "SPACE", "CAPSLOCK", "F1", "F2", "F3", "F4", "F5", "F6", "F7", "F8", "F9", "F10",
    "NUMLOCK", "SCROLLLOCK", "KP7", "KP8", "KP9", "KPMINUS", "KP4", "KP5", "KP6", "KPPLUS", "KP1", "KP2", "KP3", "KP0", "KPDOT",
    "ZENKAKUHANKAKU", "102ND", "F11", "F12", "RO", "KATAKANA", "HIRAGANA", "HENKAN", "KATAKANAHIRAGANA", "MUHENKAN",
    "KPJPCOMMA", "KPENTER", "RIGHTCTRL", "KPSLASH", "SYSRQ", "RIGHTALT", "LINEFEED", "HOME", "UP", "PAGEUP", "LEFT", "RIGHT",
    "END", "DOWN", "PAGEDOWN", "INSERT", "DELETE", "MACRO", "MUTE", "VOLUMEDOWN", "VOLUMEUP", "POWER", "KPEQUAL", "KPPLUSMINUS",
    "PAUSE", "SCALE", "KPCOMMA", "HANGEUL", "HANGUEL", "HANJA", "YEN", "LEFTMETA", "RIGHTMETA", "COMPOSE", "STOP", "AGAIN",
    "PROPS", "UNDO", "FRONT", "COPY", "OPEN", "PASTE", "FIND", "CUT", "HELP", "MENU", "CALC", "SETUP", "SLEEP", "WAKEUP",
    "FILE", "SENDFILE", "DELETEFILE", "XFER", "PROG1", "PROG2", "WWW", "MSDOS", "COFFEE", "SCREENLOCK", "DIRECTION",
    "CYCLEWINDOWS", "MAIL", "BOOKMARKS", "COMPUTER", "BACK", "FORWARD", "CLOSECD", "EJECTCD", "EJECTCLOSECD", "NEXTSONG",
    "PLAYPAUSE", "PREVIOUSSONG", "STOPCD", "RECORD", "REWIND", "PHONE", "ISO", "CONFIG", "HOMEPAGE", "REFRESH", "EXIT", "MOVE",
    "EDIT", "SCROLLUP", "SCROLLDOWN", "KPLEFTPAREN", "KPRIGHTPAREN", "NEW", "REDO", "F13", "F14", "F15", "F16", "F17", "F18",
    "F19", "F20", "F21", "F22", "F23", "F24", "PLAYCD", "PAUSECD", "PROG3", "PROG4", "DASHBOARD", "SUSPEND", "CLOSE", "PLAY",
    "FASTFORWARD", "BASSBOOST", "PRINT", "HP", "CAMERA", "SOUND", "QUESTION", "EMAIL", "CHAT", "SEARCH", "CONNECT", "FINANCE",
    "SPORT", "SHOP", "ALTERASE", "CANCEL", "BRIGHTNESSDOWN", "BRIGHTNESSUP", "MEDIA", "SWITCHVIDEOMODE", "KBDILLUMTOGGLE",
    "KBDILLUMDOWN", "KBDILLUMUP", "SEND", "REPLY", "FORWARDMAIL", "SAVE", "DOCUMENTS", "BATTERY", "BLUETOOTH", "WLAN", "UWB",
    "UNKNOWN", "VIDEO_NEXT", "VIDEO_PREV", "BRIGHTNESS_CYCLE", "BRIGHTNESS_AUTO", "BRIGHTNESS_ZERO", "DISPLAY_OFF", "WWAN",
    "WIMAX", "RFKILL", "MICMUTE", "OK", "SELECT", "GOTO", "CLEAR", "POWER2", "OPTION", "INFO", "TIME", "VENDOR", "ARCHIVE",
    "PROGRAM", "CHANNEL", "FAVORITES", "EPG", "PVR", "MHP", "LANGUAGE", "TITLE", "SUBTITLE", "ANGLE", "ZOOM", "MODE",
    "KEYBOARD", "SCREEN", "PC", "TV", "TV2", "VCR", "VCR2", "SAT", "SAT2", "CD", "TAPE", "RADIO", "TUNER", "PLAYER", "TEXT",
    "DVD", "AUX", "MP3", "AUDIO", "VIDEO", "DIRECTORY", "LIST", "MEMO", "CALENDAR", "RED", "GREEN", "YELLOW", "BLUE",
    "CHANNELUP", "CHANNELDOWN", "FIRST", "LAST", "AB", "NEXT", "RESTART", "SLOW", "SHUFFLE", "BREAK", "PREVIOUS", "DIGITS",
    "TEEN", "TWEN", "VIDEOPHONE", "GAMES", "ZOOMIN", "ZOOMOUT", "ZOOMRESET", "WORDPROCESSOR", "EDITOR", "SPREADSHEET",
    "GRAPHICSEDITOR", "PRESENTATION", "DATABASE", "NEWS", "VOICEMAIL", "ADDRESSBOOK", "MESSENGER", "DISPLAYTOGGLE",
    "BRIGHTNESS_TOGGLE", "SPELLCHECK", "LOGOFF", "DOLLAR", "EURO", "FRAMEBACK", "FRAMEFORWARD", "CONTEXT_MENU", "MEDIA_REPEAT",
    "10CHANNELSUP", "10CHANNELSDOWN", "IMAGES", "DEL_EOL", "DEL_EOS", "INS_LINE", "DEL_LINE", "FN", "FN_ESC", "FN_F1", "FN_F2",
    "FN_F3", "FN_F4", "FN_F5", "FN_F6", "FN_F7", "FN_F8", "FN_F9", "FN_F10", "FN_F11", "FN_F12", "FN_1", "FN_2", "FN_D", "FN_E",
    "FN_F", "FN_S", "FN_B", "BRL_DOT1", "BRL_DOT2", "BRL_DOT3", "BRL_DOT4", "BRL_DOT5", "BRL_DOT6", "BRL_DOT7", "BRL_DOT8",
    "BRL_DOT9", "BRL_DOT10", "NUMERIC_0", "NUMERIC_1", "NUMERIC_2", "NUMERIC_3", "NUMERIC_4", "NUMERIC_5", "NUMERIC_6",
    "NUMERIC_7", "NUMERIC_8", "NUMERIC_9", "NUMERIC_STAR", "NUMERIC_POUND", "CAMERA_FOCUS", "WPS_BUTTON", "TOUCHPAD_TOGGLE",
    "TOUCHPAD_ON", "TOUCHPAD_OFF", "CAMERA_ZOOMIN", "CAMERA_ZOOMOUT", "CAMERA_UP", "CAMERA_DOWN", "CAMERA_LEFT", "CAMERA_RIGHT",
    "ATTENDANT_ON", "ATTENDANT_OFF", "ATTENDANT_TOGGLE", "LIGHTS_TOGGLE", "ALS_TOGGLE", "BUTTONCONFIG", "TASKMANAGER",
    "JOURNAL", "CONTROLPANEL", "APPSELECT", "SCREENSAVER", "VOICECOMMAND", "BRIGHTNESS_MIN", "BRIGHTNESS_MAX"]

/-- `key`: 0 for a name that is not in the table. -/
def key (keyId : String → UInt16) (name : List Char) : UInt16 :=
  match linuxKeys.find? fun k => k.toList = name with
  | some k => keyId k
  | none => 0

/-- `NexusIrMap`, as its `mKeys`. -/
structure NexusIrMap where
  keys : List (Nat × UInt16) := []
  deriving DecidableEq, Repr

namespace NexusIrMap

/-- Whether `indexOfKey` finds the code. -/
def contains (m : NexusIrMap) (code : Nat) : Bool := m.keys.any (·.1 = code)

def add (m : NexusIrMap) (code : Nat) (keyCode : UInt16) : NexusIrMap := { m with keys := m.keys ++ [(code, keyCode)] }

def get (m : NexusIrMap) (code : Nat) : UInt16 := (m.keys.lookup code).getD 0

end NexusIrMap

/-! ### Parsing -/

inductive Status where
  | badValue
  | noMemory
  | openError (status : Int)
  deriving DecidableEq, Repr

/-- What the parser takes from elsewhere: the tokenizer, the `KEY_` constants and the size of an `unsigned long`. -/
structure ParserEnv (σ : Type) where
  tokenizer : Tokenizer σ
  keyId : String → UInt16
  longBits : Nat

section Parser
variable {σ : Type} (env : ParserEnv σ)

/-- `Parser::parseKey` -/
def parseKey (s : σ) (map : NexusIrMap) : Except Status (σ × NexusIrMap) :=
  let irCodeToken := env.tokenizer.nextToken whitespace s
  let parsed := strtoul env.longBits (cString irCodeToken.1)
  let irCode := parsed.1 % 2 ^ 32
  if parsed.2 ≠ [] then .error .badValue
  else if map.contains irCode then .error .badValue
  else
    let keyCodeToken := env.tokenizer.nextToken whitespace (env.tokenizer.skipDelimiters whitespace irCodeToken.2)
    let keyCode := key env.keyId (cString keyCodeToken.1)
    if keyCode = 0 then .error .badValue else .ok (keyCodeToken.2, map.add irCode keyCode)

/-- `Parser::parse`, with an amount of fuel for the lines. -/
def parse : Nat → σ → NexusIrMap → Option (Except Status NexusIrMap)
  | 0, _, _ => none
  | fuel + 1, s, map =>
    if env.tokenizer.isEof s then some (.ok map)
    else
      let s := env.tokenizer.skipDelimiters whitespace s
      if ¬ env.tokenizer.isEol s ∧ env.tokenizer.peekChar s ≠ '#' then
        match parseKey env s map with
        | .error status => some (.error status)
        | .ok (s, map) => parse fuel (env.tokenizer.nextLine s) map
      else parse fuel (env.tokenizer.nextLine s) map

/-- `NexusIrMap::load`: the status, and the map pointer of the caller. -/
def load (fuel : Nat) (opened : Except Int σ) (allocated : Bool) (outMap : Option NexusIrMap) :
    Option (Option Status × Option NexusIrMap) :=
  match opened with
  | .error status => some (some (.openError status), outMap)
  | .ok s =>
    if allocated = false then some (some .noMemory, outMap)
    else
      match parse env fuel s {} with
      | none => none
      | some (.error status) => some (some status, outMap)
      | some (.ok map) => some (none, some map)

end Parser
end BcmPlatform.Ir
