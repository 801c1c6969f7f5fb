import AgentFleet.Text.Blank
import AgentFleet.Transport.Target

/-!
# Command lines

The arguments that the tools are given for each kind of call. The options of a
login reach the secure shell as words, and the synchronizing copy program as one
text that it cuts into words itself.
-/

namespace AgentFleet

/-! ### The secure shell -/

namespace SshTarget

/-- The words of the options of a login. -/
def optionWords (t : SshTarget) : List String :=
  Text.words t.options

/-- The arguments that run a command. -/
def execArguments (t : SshTarget) (command : String) : List String :=
  t.optionWords ++ [t.destination, command]

/-- The arguments that copy a local path to the host. -/
def copyToArguments (t : SshTarget) (source target : String) : List String :=
  t.optionWords ++ ["-r", source, t.destination ++ ":" ++ target]

/-- The command line of the secure shell as one text. -/
def shellText (t : SshTarget) (ssh : Tool) : String :=
  let options := Text.trim t.options
  Text.join " " ssh ++ (if options.isEmpty then "" else " " ++ options)

/-- The arguments that copy a path of the host here; links are followed. -/
def copyFromArguments (t : SshTarget) (ssh : Tool) (source target : String)
    (excluded : Option String) : List String :=
  ["--copy-links", "-avvz", "--compress-level=9"] ++
    (excluded.map fun p => "--exclude=" ++ p).toList ++
    ["-e", t.shellText ssh, t.destination ++ ":" ++ source, target]

end SshTarget

/-! ### Pods -/

/-- A path with a leading tilde replaced by the home directory, if there is one. -/
def expandHome (home : Option String) (path : String) : String :=
  match home, path.toList with
  | some h, ['~'] => h
  | some h, '~' :: '/' :: rest => h ++ "/" ++ String.ofList rest
  | _, _ => path

/-- A text that a shell reads as one word: the text between single quotes, each quote of its own
between double quotes. -/
def shellQuote (s : String) : String :=
  "'" ++ Text.replace '\'' "'\"'\"'" s ++ "'"

namespace PodTarget

/-- A flag with its value, when it has one. -/
def flag (name : String) (value : Option String) : List String :=
  match value with
  | some v => [name, v]
  | none => []

/-- The flags before every verb. -/
def globalFlags (t : PodTarget) (home : Option String) : List String :=
  flag "--kubeconfig" (t.kubeconfig.map (expandHome home)) ++ flag "--context" t.context ++
    flag "-n" t.namespaceName

/-- The flag that names the container. -/
def containerFlag (t : PodTarget) : List String :=
  flag "-c" t.container

/-- The arguments that run a command in a shell of its own. -/
def execArguments (t : PodTarget) (home : Option String) (command : String) : List String :=
  t.globalFlags home ++ ["exec", t.pod] ++ t.containerFlag ++ ["--", "sh", "-c", command]

/-- The arguments that copy between a local path and one of the pod. -/
def copyArguments (t : PodTarget) (home : Option String) (source target : String) : List String :=
  t.globalFlags home ++ ["cp"] ++ t.containerFlag ++ [source, target]

/-- A path in the pod. -/
def path (t : PodTarget) (p : String) : String :=
  t.pod ++ ":" ++ p

end PodTarget

/-- The script that packs a directory without what a pattern excludes. -/
def archiveScript (source excluded : String) : String :=
  "tar czf - --exclude=" ++ shellQuote excluded ++ " -C " ++ source ++ " ."

end AgentFleet
