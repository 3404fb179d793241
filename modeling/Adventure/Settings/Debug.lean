import Adventure.Text.Blank

namespace Adventure.Settings

/-- Whether the value of a switch turns it on. -/
def switchedOn (value : Option String) : Bool :=
  value.any fun value => !(["", "0", "false"].contains (Text.trim value))

end Adventure.Settings
