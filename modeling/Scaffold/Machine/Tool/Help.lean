import Scaffold.Text.Basic

/-!
# Help texts of tools

What each tool says about itself when it is asked for help. The texts end where they would point to
documentation elsewhere.
-/

namespace Scaffold

namespace Tool

namespace Help

/-- The help of `cat`, in lines; `name` is what it was called. -/
def cat (name : String) : List String :=
  ["Usage: " ++ name ++ " [OPTION]... [FILE]...",
   "Concatenate FILE(s) to standard output.",
   "",
   "With no FILE, or when FILE is -, read standard input.",
   "",
   "  -A, --show-all           equivalent to -vET",
   "  -b, --number-nonblank    number nonempty output lines, overrides -n",
   "  -e                       equivalent to -vE",
   "  -E, --show-ends          display $ at end of each line",
   "  -n, --number             number all output lines",
   "  -s, --squeeze-blank      suppress repeated empty output lines",
   "  -t                       equivalent to -vT",
   "  -T, --show-tabs          display TAB characters as ^I",
   "  -u                       (ignored)",
   "  -v, --show-nonprinting   use ^ and M- notation, except for LFD and TAB",
   "      --help        display this help and exit",
   "      --version     output version information and exit",
   "",
   "Examples:",
   "  " ++ name ++ " f - g  Output f's contents, then standard input, then g's contents.",
   "  " ++ name ++ "        Copy standard input to standard output.",
   ""]

/-- The help of `mkdir`, in lines; `name` is what it was called. -/
def mkdir (name : String) : List String :=
  ["Usage: " ++ name ++ " [OPTION]... DIRECTORY...",
   "Create the DIRECTORY(ies), if they do not already exist.",
   "",
   "Mandatory arguments to long options are mandatory for short options too.",
   "  -m, --mode=MODE   set file mode (as in chmod), not a=rwx - umask",
   "  -p, --parents     no error if existing, make parent directories as needed,",
   "                    with their file modes unaffected by any -m option.",
   "  -v, --verbose     print a message for each created directory",
   "  -Z                   set SELinux security context of each created directory",
   "                         to the default type",
   "      --context[=CTX]  like -Z, or if CTX is specified then set the SELinux",
   "                         or SMACK security context to CTX",
   "      --help        display this help and exit",
   "      --version     output version information and exit",
   ""]

/-- The help of `touch`, in lines; `name` is what it was called. -/
def touch (name : String) : List String :=
  ["Usage: " ++ name ++ " [OPTION]... FILE...",
   "Update the access and modification times of each FILE to the current time.",
   "",
   "A FILE argument that does not exist is created empty, unless -c or -h",
   "is supplied.",
   "",
   "A FILE argument string of - is handled specially and causes touch to",
   "change the times of the file associated with standard output.",
   "",
   "Mandatory arguments to long options are mandatory for short options too.",
   "  -a                     change only the access time",
   "  -c, --no-create        do not create any files",
   "  -d, --date=STRING      parse STRING and use it instead of current time",
   "  -f                     (ignored)",
   "  -h, --no-dereference   affect each symbolic link instead of any referenced",
   "                         file (useful only on systems that can change the",
   "                         timestamps of a symlink)",
   "  -m                     change only the modification time",
   "  -r, --reference=FILE   use this file's times instead of current time",
   "  -t STAMP               use [[CC]YY]MMDDhhmm[.ss] instead of current time",
   "      --time=WORD        change the specified time:",
   "                           WORD is access, atime, or use: equivalent to -a",
   "                           WORD is modify or mtime: equivalent to -m",
   "      --help        display this help and exit",
   "      --version     output version information and exit",
   "",
   "Note that the -d and -t options accept different time-date formats.",
   ""]

/-- The help of `cp`, in lines; `name` is what it was called. -/
def cp (name : String) : List String :=
  ["Usage: " ++ name ++ " [OPTION]... [-T] SOURCE DEST",
   "  or:  " ++ name ++ " [OPTION]... SOURCE... DIRECTORY",
   "  or:  " ++ name ++ " [OPTION]... -t DIRECTORY SOURCE...",
   "Copy SOURCE to DEST, or multiple SOURCE(s) to DIRECTORY.",
   "",
   "Mandatory arguments to long options are mandatory for short options too.",
   "  -a, --archive                same as -dR --preserve=all",
   "      --attributes-only        don't copy the file data, just the attributes",
   "      --backup[=CONTROL]       make a backup of each existing destination file",
   "  -b                           like --backup but does not accept an argument",
   "      --copy-contents          copy contents of special files when recursive",
   "  -d                           same as --no-dereference --preserve=links",
   "  -f, --force                  if an existing destination file cannot be",
   "                                 opened, remove it and try again (this option",
   "                                 is ignored when the -n option is also used)",
   "  -i, --interactive            prompt before overwrite (overrides a previous -n",
   "                                  option)",
   "  -H                           follow command-line symbolic links in SOURCE",
   "  -l, --link                   hard link files instead of copying",
   "  -L, --dereference            always follow symbolic links in SOURCE",
   "  -n, --no-clobber             do not overwrite an existing file (overrides",
   "                                 a previous -i option)",
   "  -P, --no-dereference         never follow symbolic links in SOURCE",
   "  -p                           same as --preserve=mode,ownership,timestamps",
   "      --preserve[=ATTR_LIST]   preserve the specified attributes",
   "      --no-preserve=ATTR_LIST  don't preserve the specified attributes",
   "      --parents                use full source file name under DIRECTORY",
   "  -R, -r, --recursive          copy directories recursively",
   "      --reflink[=WHEN]         control clone/CoW copies. See below",
   "      --remove-destination     remove each existing destination file before",
   "                                 attempting to open it (contrast with --force)",
   "      --sparse=WHEN            control creation of sparse files. See below",
   "      --strip-trailing-slashes  remove any trailing slashes from each SOURCE",
   "                                 argument",
   "  -s, --symbolic-link          make symbolic links instead of copying",
   "  -S, --suffix=SUFFIX          override the usual backup suffix",
   "  -t, --target-directory=DIRECTORY  copy all SOURCE arguments into DIRECTORY",
   "  -T, --no-target-directory    treat DEST as a normal file",
   "  -u, --update                 copy only when the SOURCE file is newer",
   "                                 than the destination file or when the",
   "                                 destination file is missing",
   "  -v, --verbose                explain what is being done",
   "  -x, --one-file-system        stay on this file system",
   "  -Z                           set SELinux security context of destination",
   "                                 file to default type",
   "      --context[=CTX]          like -Z, or if CTX is specified then set the",
   "                                 SELinux or SMACK security context to CTX",
   "      --help        display this help and exit",
   "      --version     output version information and exit",
   "",
   "ATTR_LIST is a comma-separated list of attributes. Attributes are 'mode' for",
   "permissions (including any ACL and xattr permissions), 'ownership' for user",
   "and group, 'timestamps' for file timestamps, 'links' for hard links, 'context'",
   "for security context, 'xattr' for extended attributes, and 'all' for all",
   "attributes.",
   "",
   "By default, sparse SOURCE files are detected by a crude heuristic and the",
   "corresponding DEST file is made sparse as well.  That is the behavior",
   "selected by --sparse=auto.  Specify --sparse=always to create a sparse DEST",
   "file whenever the SOURCE file contains a long enough sequence of zero bytes.",
   "Use --sparse=never to inhibit creation of sparse files.",
   "",
   "When --reflink[=always] is specified, perform a lightweight copy, where the",
   "data blocks are copied only when modified.  If this is not possible the copy",
   "fails, or if --reflink=auto is specified, fall back to a standard copy.",
   "Use --reflink=never to ensure a standard copy is performed.",
   "",
   "The backup suffix is '~', unless set with --suffix or SIMPLE_BACKUP_SUFFIX.",
   "The version control method may be selected via the --backup option or through",
   "the VERSION_CONTROL environment variable.  Here are the values:",
   "",
   "  none, off       never make backups (even if --backup is given)",
   "  numbered, t     make numbered backups",
   "  existing, nil   numbered if numbered backups exist, simple otherwise",
   "  simple, never   always make simple backups",
   "",
   "As a special case, cp makes a backup of SOURCE when the force and backup",
   "options are given and SOURCE and DEST are the same name for an existing,",
   "regular file.",
   ""]

/-- The help of `pwd`, in lines; `name` is what it was called. -/
def pwd (name : String) : List String :=
  ["Usage: " ++ name ++ " [OPTION]...",
   "Print the full filename of the current working directory.",
   "",
   "  -L, --logical   use PWD from environment, even if it contains symlinks",
   "  -P, --physical  avoid all symlinks",
   "      --help        display this help and exit",
   "      --version     output version information and exit",
   "",
   "If no option is specified, -P is assumed.",
   "",
   "NOTE: your shell may have its own version of pwd, which usually supersedes",
   "the version described here.  Please refer to your shell's documentation",
   "for details about the options it supports.",
   ""]

/-- The help of `basename`, in lines; `name` is what it was called. -/
def basename (name : String) : List String :=
  ["Usage: " ++ name ++ " NAME [SUFFIX]",
   "  or:  " ++ name ++ " OPTION... NAME...",
   "Print NAME with any leading directory components removed.",
   "If specified, also remove a trailing SUFFIX.",
   "",
   "Mandatory arguments to long options are mandatory for short options too.",
   "  -a, --multiple       support multiple arguments and treat each as a NAME",
   "  -s, --suffix=SUFFIX  remove a trailing SUFFIX; implies -a",
   "  -z, --zero           end each output line with NUL, not newline",
   "      --help        display this help and exit",
   "      --version     output version information and exit",
   "",
   "Examples:",
   "  " ++ name ++ " /usr/bin/sort          -> \"sort\"",
   "  " ++ name ++ " include/stdio.h .h     -> \"stdio\"",
   "  " ++ name ++ " -s .h include/stdio.h  -> \"stdio\"",
   "  " ++ name ++ " -a any/str1 any/str2   -> \"str1\" followed by \"str2\"",
   ""]

/-- The help of `head`, in lines; `name` is what it was called. -/
def head (name : String) : List String :=
  ["Usage: " ++ name ++ " [OPTION]... [FILE]...",
   "Print the first 10 lines of each FILE to standard output.",
   "With more than one FILE, precede each with a header giving the file name.",
   "",
   "With no FILE, or when FILE is -, read standard input.",
   "",
   "Mandatory arguments to long options are mandatory for short options too.",
   "  -c, --bytes=[-]NUM       print the first NUM bytes of each file;",
   "                             with the leading '-', print all but the last",
   "                             NUM bytes of each file",
   "  -n, --lines=[-]NUM       print the first NUM lines instead of the first 10;",
   "                             with the leading '-', print all but the last",
   "                             NUM lines of each file",
   "  -q, --quiet, --silent    never print headers giving file names",
   "  -v, --verbose            always print headers giving file names",
   "  -z, --zero-terminated    line delimiter is NUL, not newline",
   "      --help        display this help and exit",
   "      --version     output version information and exit",
   "",
   "NUM may have a multiplier suffix:",
   "b 512, kB 1000, K 1024, MB 1000*1000, M 1024*1024,",
   "GB 1000*1000*1000, G 1024*1024*1024, and so on for T, P, E, Z, Y.",
   "Binary prefixes can be used, too: KiB=K, MiB=M, and so on.",
   ""]

/-- The help of `tr`, in lines; `name` is what it was called. -/
def tr (name : String) : List String :=
  ["Usage: " ++ name ++ " [OPTION]... STRING1 [STRING2]",
   "Translate, squeeze, and/or delete characters from standard input,",
   "writing to standard output.  STRING1 and STRING2 specify arrays of",
   "characters ARRAY1 and ARRAY2 that control the action.",
   "",
   "  -c, -C, --complement    use the complement of ARRAY1",
   "  -d, --delete            delete characters in ARRAY1, do not translate",
   "  -s, --squeeze-repeats   replace each sequence of a repeated character",
   "                            that is listed in the last specified ARRAY,",
   "                            with a single occurrence of that character",
   "  -t, --truncate-set1     first truncate ARRAY1 to length of ARRAY2",
   "      --help        display this help and exit",
   "      --version     output version information and exit",
   "",
   "ARRAYs are specified as strings of characters.  Most represent themselves.",
   "Interpreted sequences are:",
   "",
   "  \\NNN            character with octal value NNN (1 to 3 octal digits)",
   "  \\\\              backslash",
   "  \\a              audible BEL",
   "  \\b              backspace",
   "  \\f              form feed",
   "  \\n              new line",
   "  \\r              return",
   "  \\t              horizontal tab",
   "  \\v              vertical tab",
   "  CHAR1-CHAR2     all characters from CHAR1 to CHAR2 in ascending order",
   "  [CHAR*]         in ARRAY2, copies of CHAR until length of ARRAY1",
   "  [CHAR*REPEAT]   REPEAT copies of CHAR, REPEAT octal if starting with 0",
   "  [:alnum:]       all letters and digits",
   "  [:alpha:]       all letters",
   "  [:blank:]       all horizontal whitespace",
   "  [:cntrl:]       all control characters",
   "  [:digit:]       all digits",
   "  [:graph:]       all printable characters, not including space",
   "  [:lower:]       all lower case letters",
   "  [:print:]       all printable characters, including space",
   "  [:punct:]       all punctuation characters",
   "  [:space:]       all horizontal or vertical whitespace",
   "  [:upper:]       all upper case letters",
   "  [:xdigit:]      all hexadecimal digits",
   "  [=CHAR=]        all characters which are equivalent to CHAR",
   "",
   "Translation occurs if -d is not given and both STRING1 and STRING2 appear.",
   "-t is only significant when translating.  ARRAY2 is extended to length of",
   "ARRAY1 by repeating its last character as necessary.  Excess characters",
   "of ARRAY2 are ignored.  Character classes expand in unspecified order;",
   "while translating, [:lower:] and [:upper:] may be used in pairs to",
   "specify case conversion.  Squeezing occurs after translation or deletion.",
   ""]

/-- The help of `wc`, in lines; `name` is what it was called. -/
def wc (name : String) : List String :=
  ["Usage: " ++ name ++ " [OPTION]... [FILE]...",
   "  or:  " ++ name ++ " [OPTION]... --files0-from=F",
   "Print newline, word, and byte counts for each FILE, and a total line if",
   "more than one FILE is specified.  A word is a non-zero-length sequence of",
   "printable characters delimited by white space.",
   "",
   "With no FILE, or when FILE is -, read standard input.",
   "",
   "The options below may be used to select which counts are printed, always in",
   "the following order: newline, word, character, byte, maximum line length.",
   "  -c, --bytes            print the byte counts",
   "  -m, --chars            print the character counts",
   "  -l, --lines            print the newline counts",
   "      --files0-from=F    read input from the files specified by",
   "                           NUL-terminated names in file F;",
   "                           If F is - then read names from standard input",
   "  -L, --max-line-length  print the maximum display width",
   "  -w, --words            print the word counts",
   "      --help        display this help and exit",
   "      --version     output version information and exit",
   ""]

/-- The help of `echo`, in lines; `name` is what it was called. -/
def echo (name : String) : List String :=
  ["Usage: " ++ name ++ " [SHORT-OPTION]... [STRING]...",
   "  or:  " ++ name ++ " LONG-OPTION",
   "Echo the STRING(s) to standard output.",
   "",
   "  -n             do not output the trailing newline",
   "  -e             enable interpretation of backslash escapes",
   "  -E             disable interpretation of backslash escapes (default)",
   "      --help        display this help and exit",
   "      --version     output version information and exit",
   "",
   "If -e is in effect, the following sequences are recognized:",
   "",
   "  \\\\      backslash",
   "  \\a      alert (BEL)",
   "  \\b      backspace",
   "  \\c      produce no further output",
   "  \\e      escape",
   "  \\f      form feed",
   "  \\n      new line",
   "  \\r      carriage return",
   "  \\t      horizontal tab",
   "  \\v      vertical tab",
   "  \\0NNN   byte with octal value NNN (1 to 3 digits)",
   "  \\xHH    byte with hexadecimal value HH (1 to 2 digits)",
   "",
   "NOTE: your shell may have its own version of echo, which usually supersedes",
   "the version described here.  Please refer to your shell's documentation",
   "for details about the options it supports.",
   ""]

/-- The help of `printf`, in lines; `name` is what it was called. -/
def printf (name : String) : List String :=
  ["Usage: " ++ name ++ " FORMAT [ARGUMENT]...",
   "  or:  " ++ name ++ " OPTION",
   "Print ARGUMENT(s) according to FORMAT, or execute according to OPTION:",
   "",
   "      --help        display this help and exit",
   "      --version     output version information and exit",
   "",
   "FORMAT controls the output as in C printf.  Interpreted sequences are:",
   "",
   "  \\\"      double quote",
   "  \\\\      backslash",
   "  \\a      alert (BEL)",
   "  \\b      backspace",
   "  \\c      produce no further output",
   "  \\e      escape",
   "  \\f      form feed",
   "  \\n      new line",
   "  \\r      carriage return",
   "  \\t      horizontal tab",
   "  \\v      vertical tab",
   "  \\NNN    byte with octal value NNN (1 to 3 digits)",
   "  \\xHH    byte with hexadecimal value HH (1 to 2 digits)",
   "  \\uHHHH  Unicode (ISO/IEC 10646) character with hex value HHHH (4 digits)",
   "  \\UHHHHHHHH  Unicode character with hex value HHHHHHHH (8 digits)",
   "  %%      a single %",
   "  %b      ARGUMENT as a string with '\\' escapes interpreted,",
   "          except that octal escapes are of the form \\0 or \\0NNN",
   "  %q      ARGUMENT is printed in a format that can be reused as shell input,",
   "          escaping non-printable characters with the proposed POSIX $'' syntax.",
   "",
   "and all C format specifications ending with one of diouxXfeEgGcs, with",
   "ARGUMENTs converted to proper type first.  Variable widths are handled.",
   "",
   "NOTE: your shell may have its own version of printf, which usually supersedes",
   "the version described here.  Please refer to your shell's documentation",
   "for details about the options it supports.",
   ""]

/-- The help of `true`, in lines; `name` is what it was called. -/
def succeed (name : String) : List String :=
  ["Usage: " ++ name ++ " [ignored command line arguments]",
   "  or:  " ++ name ++ " OPTION",
   "Exit with a status code indicating success.",
   "",
   "      --help        display this help and exit",
   "      --version     output version information and exit",
   "",
   "NOTE: your shell may have its own version of true, which usually supersedes",
   "the version described here.  Please refer to your shell's documentation",
   "for details about the options it supports.",
   ""]

/-- The help of `false`, in lines; `name` is what it was called. -/
def fail (name : String) : List String :=
  ["Usage: " ++ name ++ " [ignored command line arguments]",
   "  or:  " ++ name ++ " OPTION",
   "Exit with a status code indicating failure.",
   "",
   "      --help        display this help and exit",
   "      --version     output version information and exit",
   "",
   "NOTE: your shell may have its own version of false, which usually supersedes",
   "the version described here.  Please refer to your shell's documentation",
   "for details about the options it supports.",
   ""]

/-- The help of `grep`, in lines; `name` is what it was called. -/
def grep (name : String) : List String :=
  ["Usage: " ++ name ++ " [OPTION]... PATTERNS [FILE]...",
   "Search for PATTERNS in each FILE.",
   "Example: " ++ name ++ " -i 'hello world' menu.h main.c",
   "PATTERNS can contain multiple patterns separated by newlines.",
   "",
   "Pattern selection and interpretation:",
   "  -E, --extended-regexp     PATTERNS are extended regular expressions",
   "  -F, --fixed-strings       PATTERNS are strings",
   "  -G, --basic-regexp        PATTERNS are basic regular expressions",
   "  -P, --perl-regexp         PATTERNS are Perl regular expressions",
   "  -e, --regexp=PATTERNS     use PATTERNS for matching",
   "  -f, --file=FILE           take PATTERNS from FILE",
   "  -i, --ignore-case         ignore case distinctions in patterns and data",
   "      --no-ignore-case      do not ignore case distinctions (default)",
   "  -w, --word-regexp         match only whole words",
   "  -x, --line-regexp         match only whole lines",
   "  -z, --null-data           a data line ends in 0 byte, not newline",
   "",
   "Miscellaneous:",
   "  -s, --no-messages         suppress error messages",
   "  -v, --invert-match        select non-matching lines",
   "  -V, --version             display version information and exit",
   "      --help                display this help text and exit",
   "",
   "Output control:",
   "  -m, --max-count=NUM       stop after NUM selected lines",
   "  -b, --byte-offset         print the byte offset with output lines",
   "  -n, --line-number         print line number with output lines",
   "      --line-buffered       flush output on every line",
   "  -H, --with-filename       print file name with output lines",
   "  -h, --no-filename         suppress the file name prefix on output",
   "      --label=LABEL         use LABEL as the standard input file name prefix",
   "  -o, --only-matching       show only nonempty parts of lines that match",
   "  -q, --quiet, --silent     suppress all normal output",
   "      --binary-files=TYPE   assume that binary files are TYPE;",
   "                            TYPE is 'binary', 'text', or 'without-match'",
   "  -a, --text                equivalent to --binary-files=text",
   "  -I                        equivalent to --binary-files=without-match",
   "  -d, --directories=ACTION  how to handle directories;",
   "                            ACTION is 'read', 'recurse', or 'skip'",
   "  -D, --devices=ACTION      how to handle devices, FIFOs and sockets;",
   "                            ACTION is 'read' or 'skip'",
   "  -r, --recursive           like --directories=recurse",
   "  -R, --dereference-recursive  likewise, but follow all symlinks",
   "      --include=GLOB        search only files that match GLOB (a file pattern)",
   "      --exclude=GLOB        skip files that match GLOB",
   "      --exclude-from=FILE   skip files that match any file pattern from FILE",
   "      --exclude-dir=GLOB    skip directories that match GLOB",
   "  -L, --files-without-match  print only names of FILEs with no selected lines",
   "  -l, --files-with-matches  print only names of FILEs with selected lines",
   "  -c, --count               print only a count of selected lines per FILE",
   "  -T, --initial-tab         make tabs line up (if needed)",
   "  -Z, --null                print 0 byte after FILE name",
   "",
   "Context control:",
   "  -B, --before-context=NUM  print NUM lines of leading context",
   "  -A, --after-context=NUM   print NUM lines of trailing context",
   "  -C, --context=NUM         print NUM lines of output context",
   "  -NUM                      same as --context=NUM",
   "      --group-separator=SEP  print SEP on line between matches with context",
   "      --no-group-separator  do not print separator for matches with context",
   "      --color[=WHEN],",
   "      --colour[=WHEN]       use markers to highlight the matching strings;",
   "                            WHEN is 'always', 'never', or 'auto'",
   "  -U, --binary              do not strip CR characters at EOL (MSDOS/Windows)",
   "",
   "When FILE is '-', read standard input.  With no FILE, read '.' if",
   "recursive, '-' otherwise.  With fewer than two FILEs, assume -h.",
   "Exit status is 0 if any line is selected, 1 otherwise;",
   "if any error occurs and -q is not given, the exit status is 2.",
   ""]

/-- The help of `[`, in lines. -/
def test : List String :=
  ["Usage: test EXPRESSION",
   "  or:  test",
   "  or:  [ EXPRESSION ]",
   "  or:  [ ]",
   "  or:  [ OPTION",
   "Exit with the status determined by EXPRESSION.",
   "",
   "      --help        display this help and exit",
   "      --version     output version information and exit",
   "",
   "An omitted EXPRESSION defaults to false.  Otherwise,",
   "EXPRESSION is true or false and sets exit status.  It is one of:",
   "",
   "  ( EXPRESSION )               EXPRESSION is true",
   "  ! EXPRESSION                 EXPRESSION is false",
   "  EXPRESSION1 -a EXPRESSION2   both EXPRESSION1 and EXPRESSION2 are true",
   "  EXPRESSION1 -o EXPRESSION2   either EXPRESSION1 or EXPRESSION2 is true",
   "",
   "  -n STRING            the length of STRING is nonzero",
   "  STRING               equivalent to -n STRING",
   "  -z STRING            the length of STRING is zero",
   "  STRING1 = STRING2    the strings are equal",
   "  STRING1 != STRING2   the strings are not equal",
   "",
   "  INTEGER1 -eq INTEGER2   INTEGER1 is equal to INTEGER2",
   "  INTEGER1 -ge INTEGER2   INTEGER1 is greater than or equal to INTEGER2",
   "  INTEGER1 -gt INTEGER2   INTEGER1 is greater than INTEGER2",
   "  INTEGER1 -le INTEGER2   INTEGER1 is less than or equal to INTEGER2",
   "  INTEGER1 -lt INTEGER2   INTEGER1 is less than INTEGER2",
   "  INTEGER1 -ne INTEGER2   INTEGER1 is not equal to INTEGER2",
   "",
   "  FILE1 -ef FILE2   FILE1 and FILE2 have the same device and inode numbers",
   "  FILE1 -nt FILE2   FILE1 is newer (modification date) than FILE2",
   "  FILE1 -ot FILE2   FILE1 is older than FILE2",
   "",
   "  -b FILE     FILE exists and is block special",
   "  -c FILE     FILE exists and is character special",
   "  -d FILE     FILE exists and is a directory",
   "  -e FILE     FILE exists",
   "  -f FILE     FILE exists and is a regular file",
   "  -g FILE     FILE exists and is set-group-ID",
   "  -G FILE     FILE exists and is owned by the effective group ID",
   "  -h FILE     FILE exists and is a symbolic link (same as -L)",
   "  -k FILE     FILE exists and has its sticky bit set",
   "  -L FILE     FILE exists and is a symbolic link (same as -h)",
   "  -N FILE     FILE exists and has been modified since it was last read",
   "  -O FILE     FILE exists and is owned by the effective user ID",
   "  -p FILE     FILE exists and is a named pipe",
   "  -r FILE     FILE exists and the user has read access",
   "  -s FILE     FILE exists and has a size greater than zero",
   "  -S FILE     FILE exists and is a socket",
   "  -t FD       file descriptor FD is opened on a terminal",
   "  -u FILE     FILE exists and its set-user-ID bit is set",
   "  -w FILE     FILE exists and the user has write access",
   "  -x FILE     FILE exists and the user has execute (or search) access",
   "",
   "Except for -h and -L, all FILE-related tests dereference symbolic links.",
   "Beware that parentheses need to be escaped (e.g., by backslashes) for shells.",
   "INTEGER may also be -l STRING, which evaluates to the length of STRING.",
   "",
   "NOTE: Binary -a and -o are inherently ambiguous.  Use 'test EXPR1 && test",
   "EXPR2' or 'test EXPR1 || test EXPR2' instead.",
   "",
   "NOTE: [ honors the --help and --version options, but test does not.",
   "test treats each of those as it treats any other nonempty STRING.",
   "",
   "NOTE: your shell may have its own version of test and/or [, which usually supersedes",
   "the version described here.  Please refer to your shell's documentation",
   "for details about the options it supports.",
   ""]

/-- The help of a tool by its name. -/
def lines (tool name : String) : List String :=
  match tool with
  | "cat" => cat name
  | "mkdir" => mkdir name
  | "touch" => touch name
  | "cp" => cp name
  | "pwd" => pwd name
  | "basename" => basename name
  | "head" => head name
  | "tr" => tr name
  | "wc" => wc name
  | "echo" => echo name
  | "printf" => printf name
  | "true" => succeed name
  | "false" => fail name
  | "grep" => grep name
  | "[" => test
  | _ => []

/-- The first line of what a tool says about its version. -/
def version (tool : String) : String :=
  if tool = "grep" then "grep (GNU grep) 3.8" else tool ++ " (GNU coreutils) 9.1"

end Help

end Tool

end Scaffold
