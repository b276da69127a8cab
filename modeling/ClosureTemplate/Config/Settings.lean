import ClosureTemplate.Scan.Mode

namespace ClosureTemplate.Config

structure LexerSettings where
  initialMode : String := "template_text"
  fragmentWords : Bool := true
  skipIgnorable : Bool := false
  deriving DecidableEq, Repr

structure LoggingSettings where
  filter : Option String := none
  deriving DecidableEq, Repr

structure InspectionSettings where
  disabled : List String := []
  deriving DecidableEq, Repr

def InspectionSettings.isEnabled (settings : InspectionSettings) (id : String) : Bool :=
  !settings.disabled.contains id

structure Settings where
  lexer : LexerSettings := {}
  logging : LoggingSettings := {}
  inspections : InspectionSettings := {}
  deriving DecidableEq, Repr

def LexerSettings.mode (settings : LexerSettings) : Except Error Scan.Mode :=
  Scan.Mode.ofLabel settings.initialMode

end ClosureTemplate.Config
