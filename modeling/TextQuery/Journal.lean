
set_option autoImplicit false

namespace TextQuery

abbrev Level := Int

namespace Level

def debug : Level := 10
def info : Level := 20
def warning : Level := 30
def error : Level := 40
def critical : Level := 50

def name (level : Level) : String :=
  if level == 10 then "DEBUG"
  else if level == 20 then "INFO"
  else if level == 30 then "WARNING"
  else if level == 40 then "ERROR"
  else if level == 50 then "CRITICAL"
  else if level == 0 then "NOTSET"
  else "Level " ++ toString level

end Level

structure Record where
  level : Level
  message : String
deriving DecidableEq, Repr

end TextQuery
