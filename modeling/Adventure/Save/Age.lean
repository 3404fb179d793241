namespace Adventure

/-- How long ago something was, in words: the largest unit of which there is one, counted in whole units. -/
def secondsAgo (seconds : Nat) : String :=
  if seconds < 30 then "just now"
  else if seconds < 60 then s!"{seconds}s ago"
  else if seconds < 3600 then s!"{seconds / 60}m ago"
  else if seconds < 86400 then s!"{seconds / 3600}h ago"
  else if seconds < 604800 then s!"{seconds / 86400}d ago"
  else s!"{seconds / 604800}w ago"

/-- How long ago a time was, both times in milliseconds. -/
def agoText (now modified : Int) : String :=
  match now - modified with
  | .ofNat passed => secondsAgo (passed / 1000)
  | .negSucc _ => "in the future"

end Adventure
