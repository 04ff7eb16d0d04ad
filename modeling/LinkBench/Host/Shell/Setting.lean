import LinkBench.Host.Shell.State
/-!
The options of a shell by their long names, and the further settings of the extended dialect.
-/

namespace LinkBench.Host.Shell

/-- The long names of options with their letters. -/
def optionNames : List (String × Char) :=
  [("errexit", 'e'), ("noglob", 'f'), ("ignoreeof", 'I'), ("interactive", 'i'), ("monitor", 'm'),
    ("noexec", 'n'), ("stdin", 's'), ("xtrace", 'x'), ("verbose", 'v'), ("vi", 'V'),
    ("emacs", 'E'), ("noclobber", 'C'), ("allexport", 'a'), ("notify", 'b'), ("nounset", 'u'),
    ("privileged", 'p')]

/-- Further long names of the plain dialect. -/
def furtherNames : List String := ["nolog", "debug"]

/-- The long names of the extended dialect in order, with the letters of those that have one. -/
def extendedNames : List (String × Option Char) :=
  [("allexport", some 'a'), ("braceexpand", some 'B'), ("emacs", none), ("errexit", some 'e'),
    ("errtrace", some 'E'), ("functrace", some 'T'), ("hashall", some 'h'),
    ("histexpand", some 'H'), ("history", none), ("ignoreeof", none),
    ("interactive-comments", none), ("keyword", some 'k'), ("monitor", some 'm'),
    ("noclobber", some 'C'), ("noexec", some 'n'), ("noglob", some 'f'), ("nolog", none),
    ("notify", some 'b'), ("nounset", some 'u'), ("onecmd", some 't'), ("physical", some 'P'),
    ("pipefail", none), ("posix", none), ("privileged", some 'p'), ("verbose", some 'v'),
    ("vi", none), ("xtrace", some 'x')]

/-- The long names of all options, and whether each is set. -/
def optionStates (s : State) : List (String × Bool) :=
  match s.dialect with
  | .plain =>
    optionNames.map (fun (name, letter) => (name, s.options.contains letter)) ++
      furtherNames.map fun name => (name, s.longOptions.contains name)
  | .extended => extendedNames.map fun (name, letter) =>
    (name, match letter with
      | some letter => s.options.contains letter
      | none => s.longOptions.contains name)

/-- The names of the settings, and whether they hold from the start. -/
def settings : List (String × Bool) :=
  [("autocd", false), ("assoc_expand_once", false), ("cdable_vars", false), ("cdspell", false),
    ("checkhash", false), ("checkjobs", false), ("checkwinsize", true), ("cmdhist", true),
    ("compat31", false), ("compat32", false), ("compat40", false), ("compat41", false),
    ("compat42", false), ("compat43", false), ("compat44", false), ("complete_fullquote", true),
    ("direxpand", false), ("dirspell", false), ("dotglob", false), ("execfail", false),
    ("expand_aliases", false), ("extdebug", false), ("extglob", false), ("extquote", true),
    ("failglob", false), ("force_fignore", true), ("globasciiranges", true),
    ("globskipdots", true), ("globstar", false), ("gnu_errfmt", false), ("histappend", false),
    ("histreedit", false), ("histverify", false), ("hostcomplete", true), ("huponexit", false),
    ("inherit_errexit", false), ("interactive_comments", true), ("lastpipe", false),
    ("lithist", false), ("localvar_inherit", false), ("localvar_unset", false),
    ("login_shell", false), ("mailwarn", false), ("no_empty_cmd_completion", false),
    ("nocaseglob", false), ("nocasematch", false), ("noexpand_translation", false),
    ("nullglob", false), ("patsub_replacement", true), ("progcomp", true),
    ("progcomp_alias", false), ("promptvars", true), ("restricted_shell", false),
    ("shift_verbose", false), ("sourcepath", true), ("varredir_close", false),
    ("xpg_echo", false)]

/-- The settings and long options that hold from the start. -/
def firstSettings : List String :=
  "interactive-comments" :: (settings.filter (·.2)).map (·.1)

/-- The settings, and whether each holds. -/
def settingStates (s : State) : List (String × Bool) :=
  settings.map fun (name, _) => (name, s.longOptions.contains name)

/-- The names of what is on. -/
def namesOn (states : List (String × Bool)) : String :=
  String.intercalate ":" ((states.filter (·.2)).map (·.1))

end LinkBench.Host.Shell
