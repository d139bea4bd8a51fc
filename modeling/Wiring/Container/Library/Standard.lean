import Wiring.Text.Split

/-!
The standard library that units can import from: its modules, and the classes in them.
-/

namespace Wiring.Container.Library

def words (lines : List String) : List String :=
  lines.flatMap fun l => (Text.pieces ' ' l.toList).map String.ofList

def standardModules : List String :=
  words
    ["abc aifc antigravity argparse array ast asynchat asyncio asyncore atexit audioop base64 bdb binascii",
     "bisect builtins bz2 cProfile calendar cgi cgitb chunk cmath cmd code codecs codeop collections",
     "colorsys compileall concurrent configparser contextlib contextvars copy copyreg crypt csv ctypes",
     "curses dataclasses datetime dbm decimal difflib dis distutils doctest email encodings ensurepip enum",
     "errno faulthandler fcntl filecmp fileinput fnmatch fractions ftplib functools gc genericpath getopt",
     "getpass gettext glob graphlib grp gzip hashlib heapq hmac html http idlelib imaplib imghdr imp",
     "importlib inspect io ipaddress itertools json keyword lib2to3 linecache locale logging lzma mailbox",
     "mailcap marshal math mimetypes mmap modulefinder multiprocessing netrc nntplib",
     "ntpath nturl2path numbers opcode operator optparse os ossaudiodev pathlib pdb pickle pickletools",
     "pipes pkgutil platform plistlib poplib posix posixpath pprint profile pstats pty pwd py_compile",
     "pyclbr pydoc pydoc_data pyexpat queue quopri random re readline reprlib resource rlcompleter runpy",
     "sched secrets select selectors shelve shlex shutil signal site smtpd smtplib sndhdr socket",
     "socketserver spwd sqlite3 sre_compile sre_constants sre_parse ssl stat statistics string stringprep",
     "struct subprocess sunau symtable sys sysconfig syslog tabnanny tarfile telnetlib tempfile termios",
     "textwrap this threading time timeit tkinter token tokenize tomllib trace traceback tracemalloc tty",
     "turtle turtledemo types typing unicodedata unittest urllib uu uuid venv warnings wave weakref",
     "webbrowser wsgiref xdrlib xml xmlrpc zipapp zipfile zipimport zlib zoneinfo"]

def standardClasses : List (String × String × List String) :=
  -- The module that they are imported from, the module that they are at home in, and their names.
  [("abc", "abc", words
      ["ABC ABCMeta abstractclassmethod abstractproperty abstractstaticmethod"]),
   ("argparse", "argparse", words
      ["Action ArgumentDefaultsHelpFormatter ArgumentError ArgumentParser ArgumentTypeError",
       "BooleanOptionalAction FileType HelpFormatter MetavarTypeHelpFormatter Namespace",
       "RawDescriptionHelpFormatter RawTextHelpFormatter"]),
   ("array", "array", words
      ["array"]),
   ("ast", "ast", words
      ["AST Add And AnnAssign Assert Assign AsyncFor AsyncFunctionDef AsyncWith Attribute AugAssign AugLoad",
       "AugStore Await BinOp BitAnd BitOr BitXor BoolOp Break Bytes Call ClassDef Compare Constant Continue",
       "Del Delete Dict DictComp Div Ellipsis Eq ExceptHandler Expr Expression ExtSlice FloorDiv For",
       "FormattedValue FunctionDef FunctionType GeneratorExp Global Gt GtE If IfExp Import ImportFrom In",
       "Index Interactive Invert Is IsNot JoinedStr LShift Lambda List ListComp Load Lt LtE MatMult Match",
       "MatchAs MatchClass MatchMapping MatchOr MatchSequence MatchSingleton MatchStar MatchValue Mod Module",
       "Mult Name NameConstant NamedExpr NodeTransformer NodeVisitor Nonlocal Not NotEq NotIn Num Or Param",
       "Pass Pow RShift Raise Return Set SetComp Slice Starred Store Str Sub Subscript Suite Try TryStar",
       "Tuple TypeIgnore UAdd USub UnaryOp While With Yield YieldFrom alias arg arguments boolop cmpop",
       "comprehension excepthandler expr expr_context keyword match_case mod operator pattern slice stmt",
       "type_ignore unaryop withitem"]),
   ("asyncio", "_asyncio", words
      ["Future Task"]),
   ("asyncio", "asyncio.base_events", words
      ["BaseEventLoop Server"]),
   ("asyncio", "asyncio.events", words
      ["AbstractEventLoop AbstractEventLoopPolicy AbstractServer Handle TimerHandle"]),
   ("asyncio", "asyncio.exceptions", words
      ["BrokenBarrierError CancelledError IncompleteReadError InvalidStateError LimitOverrunError",
       "SendfileNotAvailableError"]),
   ("asyncio", "asyncio.locks", words
      ["Barrier BoundedSemaphore Condition Event Lock Semaphore"]),
   ("asyncio", "asyncio.protocols", words
      ["BaseProtocol BufferedProtocol DatagramProtocol Protocol SubprocessProtocol"]),
   ("asyncio", "asyncio.queues", words
      ["LifoQueue PriorityQueue Queue QueueEmpty QueueFull"]),
   ("asyncio", "asyncio.runners", words
      ["Runner"]),
   ("asyncio", "asyncio.streams", words
      ["StreamReader StreamReaderProtocol StreamWriter"]),
   ("asyncio", "asyncio.taskgroups", words
      ["TaskGroup"]),
   ("asyncio", "asyncio.timeouts", words
      ["Timeout"]),
   ("asyncio", "asyncio.transports", words
      ["BaseTransport DatagramTransport ReadTransport SubprocessTransport Transport WriteTransport"]),
   ("asyncio", "asyncio.unix_events", words
      ["AbstractChildWatcher FastChildWatcher MultiLoopChildWatcher PidfdChildWatcher SafeChildWatcher",
       "ThreadedChildWatcher"]),
   ("asyncio", "builtins", words
      ["TimeoutError"]),
   ("binascii", "binascii", words
      ["Error Incomplete"]),
   ("bz2", "bz2", words
      ["BZ2File"]),
   ("bz2", "_bz2", words
      ["BZ2Compressor BZ2Decompressor"]),
   ("calendar", "calendar", words
      ["Calendar HTMLCalendar IllegalMonthError IllegalWeekdayError LocaleHTMLCalendar LocaleTextCalendar",
       "TextCalendar different_locale"]),
   ("code", "code", words
      ["InteractiveConsole InteractiveInterpreter"]),
   ("codecs", "codecs", words
      ["BufferedIncrementalDecoder BufferedIncrementalEncoder Codec CodecInfo IncrementalDecoder",
       "IncrementalEncoder StreamReader StreamReaderWriter StreamRecoder StreamWriter"]),
   ("collections", "collections", words
      ["ChainMap Counter OrderedDict UserDict UserList UserString defaultdict deque"]),
   ("collections.abc", "collections.abc", words
      ["AsyncGenerator AsyncIterable AsyncIterator Awaitable ByteString Callable Collection Container",
       "Coroutine Generator Hashable ItemsView Iterable Iterator KeysView Mapping MappingView MutableMapping",
       "MutableSequence MutableSet Reversible Sequence Set Sized ValuesView"]),
   ("concurrent.futures", "builtins", words
      ["TimeoutError"]),
   ("concurrent.futures", "concurrent.futures._base", words
      ["BrokenExecutor CancelledError Executor Future InvalidStateError"]),
   ("concurrent.futures", "concurrent.futures.process", words
      ["ProcessPoolExecutor"]),
   ("concurrent.futures", "concurrent.futures.thread", words
      ["ThreadPoolExecutor"]),
   ("configparser", "configparser", words
      ["BasicInterpolation ConfigParser ConverterMapping DuplicateOptionError DuplicateSectionError Error",
       "ExtendedInterpolation Interpolation InterpolationDepthError InterpolationError",
       "InterpolationMissingOptionError InterpolationSyntaxError LegacyInterpolation",
       "MissingSectionHeaderError NoOptionError NoSectionError ParsingError RawConfigParser SafeConfigParser",
       "SectionProxy"]),
   ("contextlib", "contextlib", words
      ["AbstractAsyncContextManager AbstractContextManager AsyncContextDecorator AsyncExitStack",
       "ContextDecorator ExitStack aclosing chdir closing nullcontext redirect_stderr redirect_stdout",
       "suppress"]),
   ("contextvars", "_contextvars", words
      ["Context ContextVar Token"]),
   ("copy", "copy", words
      ["Error"]),
   ("csv", "csv", words
      ["Dialect DictReader DictWriter Sniffer excel excel_tab unix_dialect"]),
   ("csv", "_csv", words
      ["Error"]),
   ("ctypes", "ctypes", words
      ["ArgumentError CDLL LibraryLoader PyDLL c_bool c_byte c_char c_char_p c_double c_float c_int c_long",
       "c_longdouble c_short c_ubyte c_uint c_ulong c_ushort c_void_p c_wchar c_wchar_p py_object"]),
   ("ctypes", "_ctypes", words
      ["Array Structure Union"]),
   ("ctypes", "ctypes._endian", words
      ["BigEndianStructure BigEndianUnion"]),
   ("dataclasses", "dataclasses", words
      ["Field FrozenInstanceError InitVar"]),
   ("datetime", "datetime", words
      ["date datetime time timedelta timezone tzinfo"]),
   ("decimal", "decimal", words
      ["Clamped Context ConversionSyntax Decimal DecimalException DecimalTuple DivisionByZero",
       "DivisionImpossible DivisionUndefined FloatOperation Inexact InvalidContext InvalidOperation Overflow",
       "Rounded Subnormal Underflow"]),
   ("difflib", "difflib", words
      ["Differ HtmlDiff Match SequenceMatcher"]),
   ("dis", "dis", words
      ["Bytecode Instruction Positions"]),
   ("doctest", "doctest", words
      ["DebugRunner DocFileCase DocTest DocTestCase DocTestFailure DocTestFinder DocTestParser DocTestRunner",
       "Example OutputChecker SkipDocTestCase TestResults UnexpectedException"]),
   ("email.message", "email.message", words
      ["EmailMessage MIMEPart Message"]),
   ("email.message", "email._policybase", words
      ["Policy"]),
   ("email.message", "email.charset", words
      ["Charset"]),
   ("email.utils", "email.charset", words
      ["Charset"]),
   ("enum", "enum", words
      ["Enum EnumCheck EnumType Flag FlagBoundary IntEnum IntFlag ReprEnum StrEnum auto member nonmember",
       "property verify"]),
   ("filecmp", "filecmp", words
      ["dircmp"]),
   ("fileinput", "fileinput", words
      ["FileInput"]),
   ("fractions", "fractions", words
      ["Fraction"]),
   ("functools", "functools", words
      ["cached_property partial partialmethod singledispatchmethod"]),
   ("getopt", "getopt", words
      ["GetoptError"]),
   ("getpass", "getpass", words
      ["GetPassWarning"]),
   ("gettext", "gettext", words
      ["GNUTranslations NullTranslations"]),
   ("graphlib", "graphlib", words
      ["CycleError TopologicalSorter"]),
   ("grp", "grp", words
      ["struct_group"]),
   ("gzip", "gzip", words
      ["BadGzipFile GzipFile"]),
   ("hashlib", "_blake2", words
      ["blake2b blake2s"]),
   ("hmac", "hmac", words
      ["HMAC"]),
   ("html.parser", "html.parser", words
      ["HTMLParser"]),
   ("http", "http", words
      ["HTTPMethod HTTPStatus"]),
   ("http.client", "http.client", words
      ["BadStatusLine CannotSendHeader CannotSendRequest HTTPConnection HTTPException HTTPMessage",
       "HTTPResponse HTTPSConnection ImproperConnectionState IncompleteRead InvalidURL LineTooLong",
       "NotConnected RemoteDisconnected ResponseNotReady UnimplementedFileMode UnknownProtocol",
       "UnknownTransferEncoding"]),
   ("http.cookies", "http.cookies", words
      ["BaseCookie CookieError Morsel SimpleCookie"]),
   ("http.server", "http.server", words
      ["BaseHTTPRequestHandler CGIHTTPRequestHandler HTTPServer SimpleHTTPRequestHandler ThreadingHTTPServer"]),
   ("http.server", "http", words
      ["HTTPStatus"]),
   ("imaplib", "imaplib", words
      ["IMAP4 IMAP4_SSL IMAP4_stream"]),
   ("importlib.abc", "importlib.abc", words
      ["ExecutionLoader FileLoader Finder InspectLoader MetaPathFinder PathEntryFinder ResourceLoader",
       "SourceLoader"]),
   ("importlib.abc", "importlib._abc", words
      ["Loader"]),
   ("importlib.abc", "importlib.resources.abc", words
      ["ResourceReader TraversableResources"]),
   ("importlib.metadata", "importlib.metadata", words
      ["Deprecated DeprecatedList DeprecatedTuple Distribution DistributionFinder EntryPoint EntryPoints",
       "FastPath FileHash Lookup MetadataPathFinder PackageNotFoundError PackagePath PathDistribution",
       "Prepared Sectioned SelectableGroups"]),
   ("importlib.metadata", "importlib.abc", words
      ["MetaPathFinder"]),
   ("importlib.metadata", "importlib.metadata._collections", words
      ["FreezableDefaultDict Pair"]),
   ("importlib.resources", "importlib.resources.abc", words
      ["ResourceReader"]),
   ("importlib.util", "importlib.util", words
      ["LazyLoader"]),
   ("importlib.util", "importlib._abc", words
      ["Loader"]),
   ("inspect", "inspect", words
      ["ArgInfo Arguments Attribute BlockFinder BoundArguments ClassFoundException ClosureVars EndOfBlock",
       "FrameInfo FullArgSpec Parameter Signature Traceback"]),
   ("io", "io", words
      ["BufferedIOBase IOBase RawIOBase TextIOBase UnsupportedOperation"]),
   ("io", "_io", words
      ["BufferedRWPair BufferedRandom BufferedReader BufferedWriter BytesIO FileIO IncrementalNewlineDecoder",
       "StringIO TextIOWrapper"]),
   ("io", "builtins", words
      ["BlockingIOError"]),
   ("ipaddress", "ipaddress", words
      ["AddressValueError IPv4Address IPv4Interface IPv4Network IPv6Address IPv6Interface IPv6Network",
       "NetmaskValueError"]),
   ("itertools", "itertools", words
      ["accumulate chain combinations combinations_with_replacement compress count cycle dropwhile",
       "filterfalse groupby islice pairwise permutations product repeat starmap takewhile zip_longest"]),
   ("json", "json.decoder", words
      ["JSONDecodeError JSONDecoder"]),
   ("json", "json.encoder", words
      ["JSONEncoder"]),
   ("json.decoder", "json.decoder", words
      ["JSONDecodeError JSONDecoder"]),
   ("json.encoder", "json.encoder", words
      ["JSONEncoder"]),
   ("locale", "locale", words
      ["Error"]),
   ("logging", "logging", words
      ["BufferingFormatter FileHandler Filter Filterer Formatter Handler LogRecord Logger LoggerAdapter",
       "Manager NullHandler PercentStyle PlaceHolder RootLogger StrFormatStyle StreamHandler",
       "StringTemplateStyle"]),
   ("logging.config", "logging.config", words
      ["BaseConfigurator ConvertingDict ConvertingList ConvertingMixin ConvertingTuple DictConfigurator"]),
   ("logging.handlers", "logging.handlers", words
      ["BaseRotatingHandler BufferingHandler DatagramHandler HTTPHandler MemoryHandler NTEventLogHandler",
       "QueueHandler QueueListener RotatingFileHandler SMTPHandler SocketHandler SysLogHandler",
       "TimedRotatingFileHandler WatchedFileHandler"]),
   ("lzma", "lzma", words
      ["LZMAFile"]),
   ("lzma", "_lzma", words
      ["LZMACompressor LZMADecompressor LZMAError"]),
   ("mailbox", "mailbox", words
      ["Babyl BabylMessage Error ExternalClashError FormatError MH MHMessage MMDF MMDFMessage Mailbox",
       "Maildir MaildirMessage Message NoSuchMailboxError NotEmptyError mbox mboxMessage"]),
   ("mimetypes", "mimetypes", words
      ["MimeTypes"]),
   ("mmap", "mmap", words
      ["mmap"]),
   ("multiprocessing", "multiprocessing.context", words
      ["AuthenticationError BufferTooShort Process ProcessError TimeoutError"]),
   ("multiprocessing.managers", "multiprocessing.managers", words
      ["AcquirerProxy ArrayProxy BarrierProxy BaseListProxy BaseManager BaseProxy ConditionProxy DictProxy",
       "EventProxy IteratorProxy ListProxy Namespace NamespaceProxy PoolProxy ProcessLocalSet RemoteError",
       "Server SharedMemoryManager SharedMemoryServer State SyncManager Token Value ValueProxy"]),
   ("multiprocessing.managers", "multiprocessing.context", words
      ["ProcessError"]),
   ("multiprocessing.pool", "multiprocessing.pool", words
      ["ApplyResult ExceptionWithTraceback IMapIterator IMapUnorderedIterator MapResult MaybeEncodingError",
       "Pool RemoteTraceback ThreadPool"]),
   ("multiprocessing.pool", "multiprocessing.context", words
      ["TimeoutError"]),
   ("netrc", "netrc", words
      ["NetrcParseError netrc"]),
   ("numbers", "numbers", words
      ["Complex Integral Number Rational Real"]),
   ("operator", "operator", words
      ["attrgetter itemgetter methodcaller"]),
   ("optparse", "optparse", words
      ["AmbiguousOptionError BadOptionError HelpFormatter IndentedHelpFormatter OptParseError Option",
       "OptionConflictError OptionContainer OptionError OptionGroup OptionParser OptionValueError",
       "TitledHelpFormatter Values"]),
   ("os", "os", words
      ["PathLike stat_result statvfs_result terminal_size"]),
   ("os", "posix", words
      ["DirEntry sched_param times_result uname_result waitid_result"]),
   ("pathlib", "pathlib", words
      ["Path PosixPath PurePath PurePosixPath PureWindowsPath WindowsPath"]),
   ("pdb", "pdb", words
      ["Pdb Restart"]),
   ("pickle", "pickle", words
      ["PickleBuffer"]),
   ("pickle", "_pickle", words
      ["PickleError Pickler PicklingError Unpickler UnpicklingError"]),
   ("pickletools", "pickletools", words
      ["ArgumentDescriptor OpcodeInfo StackObject"]),
   ("pkgutil", "pkgutil", words
      ["ImpImporter ImpLoader ModuleInfo"]),
   ("platform", "platform", words
      ["uname_result"]),
   ("plistlib", "plistlib", words
      ["InvalidFileException PlistFormat UID"]),
   ("poplib", "poplib", words
      ["POP3 POP3_SSL error_proto"]),
   ("posix", "posix", words
      ["DirEntry sched_param times_result uname_result waitid_result"]),
   ("pprint", "pprint", words
      ["PrettyPrinter"]),
   ("profile", "profile", words
      ["Profile"]),
   ("pstats", "pstats", words
      ["FunctionProfile SortKey Stats StatsProfile TupleComp"]),
   ("pwd", "pwd", words
      ["struct_passwd"]),
   ("py_compile", "py_compile", words
      ["PyCompileError PycInvalidationMode"]),
   ("queue", "queue", words
      ["Full LifoQueue PriorityQueue Queue"]),
   ("queue", "_queue", words
      ["Empty SimpleQueue"]),
   ("random", "random", words
      ["Random SystemRandom"]),
   ("re", "re", words
      ["Match Pattern RegexFlag Scanner error"]),
   ("reprlib", "reprlib", words
      ["Repr"]),
   ("resource", "resource", words
      ["struct_rusage"]),
   ("sched", "sched", words
      ["Event scheduler"]),
   ("secrets", "random", words
      ["SystemRandom"]),
   ("select", "select", words
      ["epoll"]),
   ("selectors", "selectors", words
      ["BaseSelector EpollSelector PollSelector SelectSelector SelectorKey"]),
   ("shelve", "shelve", words
      ["BsdDbShelf DbfilenameShelf Shelf"]),
   ("shlex", "shlex", words
      ["shlex"]),
   ("shutil", "shutil", words
      ["Error ExecError ReadError RegistryError SameFileError SpecialFileError"]),
   ("signal", "signal", words
      ["Handlers Sigmasks Signals struct_siginfo"]),
   ("smtplib", "smtplib", words
      ["LMTP SMTP SMTPAuthenticationError SMTPConnectError SMTPDataError SMTPException SMTPHeloError",
       "SMTPNotSupportedError SMTPRecipientsRefused SMTPResponseException SMTPSenderRefused",
       "SMTPServerDisconnected SMTP_SSL"]),
   ("socket", "socket", words
      ["AddressFamily AddressInfo MsgFlag SocketIO SocketKind gaierror herror socket"]),
   ("socketserver", "socketserver", words
      ["BaseRequestHandler BaseServer DatagramRequestHandler ForkingMixIn ForkingTCPServer ForkingUDPServer",
       "StreamRequestHandler TCPServer ThreadingMixIn ThreadingTCPServer ThreadingUDPServer",
       "ThreadingUnixDatagramServer ThreadingUnixStreamServer UDPServer UnixDatagramServer UnixStreamServer"]),
   ("sqlite3", "sqlite3", words
      ["Blob Connection Cursor DataError DatabaseError Error IntegrityError InterfaceError InternalError",
       "NotSupportedError OperationalError PrepareProtocol ProgrammingError Row Warning"]),
   ("ssl", "ssl", words
      ["AlertDescription DefaultVerifyPaths Options Purpose SSLCertVerificationError SSLContext SSLEOFError",
       "SSLError SSLErrorNumber SSLObject SSLSocket SSLSyscallError SSLWantReadError SSLWantWriteError",
       "SSLZeroReturnError TLSVersion VerifyFlags VerifyMode"]),
   ("ssl", "_ssl", words
      ["MemoryBIO SSLSession"]),
   ("statistics", "statistics", words
      ["LinearRegression NormalDist StatisticsError"]),
   ("string", "string", words
      ["Formatter Template"]),
   ("struct", "struct", words
      ["error"]),
   ("struct", "_struct", words
      ["Struct"]),
   ("subprocess", "subprocess", words
      ["CalledProcessError CompletedProcess Popen SubprocessError TimeoutExpired"]),
   ("symtable", "symtable", words
      ["Class Function Symbol SymbolTable SymbolTableFactory"]),
   ("tabnanny", "tabnanny", words
      ["NannyNag Whitespace"]),
   ("tarfile", "tarfile", words
      ["AbsoluteLinkError AbsolutePathError CompressionError EOFHeaderError EmptyHeaderError ExFileObject",
       "ExtractError FilterError HeaderError InvalidHeaderError LinkOutsideDestinationError",
       "OutsideDestinationError ReadError SpecialFileError StreamError SubsequentHeaderError TarError",
       "TarFile TarInfo TruncatedHeaderError"]),
   ("tempfile", "tempfile", words
      ["SpooledTemporaryFile TemporaryDirectory"]),
   ("textwrap", "textwrap", words
      ["TextWrapper"]),
   ("threading", "threading", words
      ["Barrier BoundedSemaphore BrokenBarrierError Condition Event Semaphore Thread Timer"]),
   ("time", "time", words
      ["struct_time"]),
   ("timeit", "timeit", words
      ["Timer"]),
   ("tokenize", "tokenize", words
      ["StopTokenizing TokenError TokenInfo Untokenizer"]),
   ("tomllib", "tomllib", words
      ["TOMLDecodeError"]),
   ("trace", "trace", words
      ["CoverageResults Trace"]),
   ("traceback", "traceback", words
      ["FrameSummary StackSummary TracebackException"]),
   ("tracemalloc", "tracemalloc", words
      ["BaseFilter DomainFilter Filter Frame Snapshot Statistic StatisticDiff Trace Traceback"]),
   ("types", "types", words
      ["DynamicClassAttribute GenericAlias SimpleNamespace UnionType"]),
   ("types", "builtins", words
      ["NoneType NotImplementedType"]),
   ("unicodedata", "unicodedata", words
      ["UCD"]),
   ("unittest", "unittest.async_case", words
      ["IsolatedAsyncioTestCase"]),
   ("unittest", "unittest.case", words
      ["FunctionTestCase SkipTest TestCase"]),
   ("unittest", "unittest.loader", words
      ["TestLoader"]),
   ("unittest", "unittest.main", words
      ["TestProgram"]),
   ("unittest", "unittest.result", words
      ["TestResult"]),
   ("unittest", "unittest.runner", words
      ["TextTestResult TextTestRunner"]),
   ("unittest", "unittest.suite", words
      ["BaseTestSuite TestSuite"]),
   ("unittest.mock", "unittest.mock", words
      ["AsyncMagicMixin AsyncMock AsyncMockMixin Base CallableMixin InvalidSpecError MagicMixin MagicMock",
       "MagicProxy Mock NonCallableMagicMock NonCallableMock PropertyMock"]),
   ("urllib.error", "urllib.error", words
      ["ContentTooShortError HTTPError URLError"]),
   ("urllib.parse", "urllib.parse", words
      ["DefragResult DefragResultBytes ParseResult ParseResultBytes SplitResult SplitResultBytes"]),
   ("urllib.request", "urllib.request", words
      ["AbstractBasicAuthHandler AbstractDigestAuthHandler AbstractHTTPHandler BaseHandler CacheFTPHandler",
       "DataHandler FTPHandler FancyURLopener FileHandler HTTPBasicAuthHandler HTTPCookieProcessor",
       "HTTPDefaultErrorHandler HTTPDigestAuthHandler HTTPErrorProcessor HTTPHandler HTTPPasswordMgr",
       "HTTPPasswordMgrWithDefaultRealm HTTPPasswordMgrWithPriorAuth HTTPRedirectHandler HTTPSHandler",
       "OpenerDirector ProxyBasicAuthHandler ProxyDigestAuthHandler ProxyHandler Request URLopener",
       "UnknownHandler ftpwrapper"]),
   ("urllib.request", "urllib.error", words
      ["ContentTooShortError HTTPError URLError"]),
   ("urllib.request", "urllib.response", words
      ["addclosehook addinfourl"]),
   ("uuid", "uuid", words
      ["SafeUUID UUID"]),
   ("venv", "venv", words
      ["EnvBuilder"]),
   ("warnings", "warnings", words
      ["WarningMessage catch_warnings"]),
   ("wave", "wave", words
      ["Error Wave_read Wave_write"]),
   ("weakref", "weakref", words
      ["CallableProxyType KeyedRef ProxyType ReferenceType WeakKeyDictionary WeakMethod WeakValueDictionary",
       "finalize"]),
   ("weakref", "_weakrefset", words
      ["WeakSet"]),
   ("webbrowser", "webbrowser", words
      ["BackgroundBrowser BaseBrowser Chrome Elinks Error Galeon GenericBrowser Grail Konqueror Mozilla",
       "Netscape Opera UnixBrowser"]),
   ("xml.etree.ElementTree", "xml.etree.ElementTree", words
      ["C14NWriterTarget Element ElementTree ParseError QName TreeBuilder XMLParser XMLPullParser"]),
   ("zipapp", "zipapp", words
      ["ZipAppError"]),
   ("zipfile", "zipfile", words
      ["BadZipFile CompleteDirs FastLookup LZMACompressor LZMADecompressor LargeZipFile Path PyZipFile",
       "ZipExtFile ZipFile ZipInfo"]),
   ("zipimport", "zipimport", words
      ["ZipImportError zipimporter"]),
   ("zlib", "zlib", words
      ["error"]),
   ("zoneinfo", "zoneinfo", words
      ["ZoneInfo"]),
   ("zoneinfo", "zoneinfo._common", words
      ["ZoneInfoNotFoundError"]),
   ("zoneinfo", "zoneinfo._tzpath", words
      ["InvalidTZPathWarning"])]

def standardGenerics : List (String × List String) :=
  [("asyncio", words
      ["Future LifoQueue PriorityQueue Queue Task"]),
   ("codecs", words
      ["CodecInfo"]),
   ("collections", words
      ["ChainMap Counter OrderedDict UserDict UserList UserString defaultdict deque"]),
   ("collections.abc", words
      ["AsyncGenerator AsyncIterable AsyncIterator Awaitable ByteString Callable Collection Container Coroutine",
       "Generator ItemsView Iterable Iterator KeysView Mapping MappingView MutableMapping MutableSequence",
       "MutableSet Reversible Sequence Set ValuesView"]),
   ("concurrent.futures", words
      ["Future"]),
   ("configparser", words
      ["ConfigParser ConverterMapping RawConfigParser SafeConfigParser SectionProxy"]),
   ("contextlib", words
      ["AbstractAsyncContextManager AbstractContextManager AsyncExitStack ExitStack aclosing chdir closing",
       "nullcontext redirect_stderr redirect_stdout suppress"]),
   ("contextvars", words
      ["ContextVar Token"]),
   ("ctypes", words
      ["Array LibraryLoader"]),
   ("dataclasses", words
      ["Field"]),
   ("decimal", words
      ["DecimalTuple"]),
   ("difflib", words
      ["Match SequenceMatcher"]),
   ("dis", words
      ["Instruction Positions"]),
   ("doctest", words
      ["TestResults"]),
   ("enum", words
      ["MappingProxyType"]),
   ("filecmp", words
      ["dircmp"]),
   ("fileinput", words
      ["FileInput"]),
   ("functools", words
      ["cached_property partial partialmethod"]),
   ("graphlib", words
      ["TopologicalSorter"]),
   ("grp", words
      ["struct_group"]),
   ("http.cookies", words
      ["BaseCookie Morsel SimpleCookie"]),
   ("importlib.metadata", words
      ["DeprecatedList EntryPoints FreezableDefaultDict Pair SelectableGroups"]),
   ("inspect", words
      ["ArgInfo Arguments Attribute ClosureVars FrameInfo FullArgSpec Traceback"]),
   ("itertools", words
      ["chain"]),
   ("logging", words
      ["FileHandler LoggerAdapter StreamHandler"]),
   ("logging.config", words
      ["ConvertingDict ConvertingList ConvertingTuple"]),
   ("logging.handlers", words
      ["BaseRotatingHandler RotatingFileHandler TimedRotatingFileHandler WatchedFileHandler"]),
   ("mailbox", words
      ["Babyl MH MMDF Mailbox Maildir mbox"]),
   ("multiprocessing.managers", words
      ["ProcessLocalSet ValueProxy"]),
   ("multiprocessing.pool", words
      ["ApplyResult AsyncResult MapResult"]),
   ("os", words
      ["DirEntry PathLike sched_param stat_result statvfs_result terminal_size times_result uname_result",
       "waitid_result"]),
   ("pkgutil", words
      ["ModuleInfo"]),
   ("platform", words
      ["uname_result"]),
   ("posix", words
      ["DirEntry sched_param times_result uname_result waitid_result"]),
   ("pwd", words
      ["struct_passwd"]),
   ("queue", words
      ["LifoQueue PriorityQueue Queue SimpleQueue"]),
   ("re", words
      ["Match Pattern"]),
   ("resource", words
      ["struct_rusage"]),
   ("sched", words
      ["Event"]),
   ("selectors", words
      ["SelectorKey"]),
   ("shelve", words
      ["BsdDbShelf DbfilenameShelf Shelf"]),
   ("signal", words
      ["struct_siginfo"]),
   ("ssl", words
      ["DefaultVerifyPaths"]),
   ("statistics", words
      ["LinearRegression"]),
   ("subprocess", words
      ["CompletedProcess Popen"]),
   ("tempfile", words
      ["SpooledTemporaryFile TemporaryDirectory"]),
   ("threading", words
      ["ExceptHookArgs"]),
   ("time", words
      ["struct_time"]),
   ("tokenize", words
      ["TokenInfo"]),
   ("traceback", words
      ["StackSummary"]),
   ("tracemalloc", words
      ["Traceback"]),
   ("types", words
      ["AsyncGeneratorType MappingProxyType"]),
   ("urllib.parse", words
      ["DefragResult DefragResultBytes ParseResult ParseResultBytes ResultBase SplitResult SplitResultBytes"]),
   ("weakref", words
      ["KeyedRef ReferenceType WeakKeyDictionary WeakMethod WeakSet WeakValueDictionary ref"])]

def standardRenames : List (String × String × String × String) :=
  [("array", "ArrayType", "array", "array"),
   ("asyncio", "DefaultEventLoopPolicy", "asyncio.unix_events", "_UnixDefaultEventLoopPolicy"),
   ("asyncio", "SelectorEventLoop", "asyncio.unix_events", "_UnixSelectorEventLoop"),
   ("calendar", "error", "builtins", "ValueError"), ("contextlib", "MethodType", "builtins", "method"),
   ("copy", "error", "copy", "Error"), ("ctypes", "LittleEndianStructure", "_ctypes", "Structure"),
   ("ctypes", "LittleEndianUnion", "_ctypes", "Union"), ("ctypes", "c_int16", "ctypes", "c_short"),
   ("ctypes", "c_int32", "ctypes", "c_int"), ("ctypes", "c_int64", "ctypes", "c_long"),
   ("ctypes", "c_int8", "ctypes", "c_byte"), ("ctypes", "c_longlong", "ctypes", "c_long"),
   ("ctypes", "c_size_t", "ctypes", "c_ulong"), ("ctypes", "c_ssize_t", "ctypes", "c_long"),
   ("ctypes", "c_uint16", "ctypes", "c_ushort"), ("ctypes", "c_uint32", "ctypes", "c_uint"),
   ("ctypes", "c_uint64", "ctypes", "c_ulong"), ("ctypes", "c_uint8", "ctypes", "c_ubyte"),
   ("ctypes", "c_ulonglong", "ctypes", "c_ulong"), ("ctypes", "c_voidp", "ctypes", "c_void_p"),
   ("dataclasses", "FunctionType", "builtins", "function"), ("enum", "EnumMeta", "enum", "EnumType"),
   ("enum", "MappingProxyType", "builtins", "mappingproxy"), ("getopt", "error", "getopt", "GetoptError"),
   ("http.client", "error", "http.client", "HTTPException"),
   ("importlib.resources", "Resource", "builtins", "str"),
   ("json.encoder", "c_make_encoder", "_json", "Encoder"),
   ("logging.config", "dictConfigClass", "logging.config", "DictConfigurator"),
   ("mmap", "error", "builtins", "OSError"),
   ("multiprocessing.managers", "BasePoolProxy", "multiprocessing.managers", "PoolProxy"),
   ("multiprocessing.pool", "AsyncResult", "multiprocessing.pool", "ApplyResult"),
   ("optparse", "make_option", "optparse", "Option"), ("os", "error", "builtins", "OSError"),
   ("pickle", "FunctionType", "builtins", "function"), ("pkgutil", "ModuleType", "builtins", "module"),
   ("posix", "error", "builtins", "OSError"), ("resource", "error", "builtins", "OSError"),
   ("runpy", "ModuleType", "builtins", "module"), ("select", "error", "builtins", "OSError"),
   ("selectors", "DefaultSelector", "selectors", "EpollSelector"),
   ("signal", "ItimerError", "signal", "itimer_error"), ("socket", "SocketType", "_socket", "socket"),
   ("socket", "error", "builtins", "OSError"), ("socket", "timeout", "builtins", "TimeoutError"),
   ("sqlite3", "Binary", "builtins", "memoryview"),
   ("ssl", "CertificateError", "ssl", "SSLCertVerificationError"),
   ("ssl", "socket_error", "builtins", "OSError"),
   ("threading", "ExceptHookArgs", "_thread", "_ExceptHookArgs"),
   ("threading", "ThreadError", "builtins", "RuntimeError"), ("threading", "local", "_thread", "_local"),
   ("types", "AsyncGeneratorType", "builtins", "async_generator"),
   ("types", "BuiltinFunctionType", "builtins", "builtin_function_or_method"),
   ("types", "BuiltinMethodType", "builtins", "builtin_function_or_method"),
   ("types", "CellType", "builtins", "cell"),
   ("types", "ClassMethodDescriptorType", "builtins", "classmethod_descriptor"),
   ("types", "CodeType", "builtins", "code"), ("types", "CoroutineType", "builtins", "coroutine"),
   ("types", "EllipsisType", "builtins", "ellipsis"), ("types", "FrameType", "builtins", "frame"),
   ("types", "FunctionType", "builtins", "function"), ("types", "GeneratorType", "builtins", "generator"),
   ("types", "GetSetDescriptorType", "builtins", "getset_descriptor"),
   ("types", "LambdaType", "builtins", "function"), ("types", "MappingProxyType", "builtins", "mappingproxy"),
   ("types", "MemberDescriptorType", "builtins", "member_descriptor"),
   ("types", "MethodDescriptorType", "builtins", "method_descriptor"),
   ("types", "MethodType", "builtins", "method"), ("types", "MethodWrapperType", "builtins", "method-wrapper"),
   ("types", "ModuleType", "builtins", "module"), ("types", "TracebackType", "builtins", "traceback"),
   ("types", "WrapperDescriptorType", "builtins", "wrapper_descriptor"),
   ("unittest", "main", "unittest.main", "TestProgram"), ("unittest.mock", "CodeType", "builtins", "code"),
   ("unittest.mock", "MethodType", "builtins", "method"), ("unittest.mock", "ModuleType", "builtins", "module"),
   ("urllib.parse", "ResultBase", "urllib.parse", "_NetlocResultMixinStr"),
   ("uuid", "bytes_", "builtins", "bytes"), ("uuid", "int_", "builtins", "int"),
   ("weakref", "ref", "weakref", "ReferenceType"), ("webbrowser", "Chromium", "webbrowser", "Chrome"),
   ("zipfile", "BadZipfile", "zipfile", "BadZipFile"), ("zipfile", "error", "zipfile", "BadZipFile")]

def standardFixed : List (String × List String) :=
  [("_asyncio", words
      ["Future Task"]),
   ("_blake2", words
      ["blake2b blake2s"]),
   ("_bz2", words
      ["BZ2Compressor BZ2Decompressor"]),
   ("_contextvars", words
      ["Context ContextVar Token"]),
   ("_ctypes", words
      ["Array Structure"]),
   ("_io", words
      ["BufferedRWPair BufferedRandom BufferedReader BufferedWriter BytesIO FileIO IncrementalNewlineDecoder",
       "StringIO TextIOWrapper"]),
   ("_lzma", words
      ["LZMACompressor LZMADecompressor"]),
   ("_pickle", words
      ["Pickler Unpickler"]),
   ("_queue", words
      ["SimpleQueue"]),
   ("_socket", words
      ["socket"]),
   ("_ssl", words
      ["MemoryBIO SSLSession"]),
   ("_struct", words
      ["Struct"]),
   ("_thread", words
      ["RLock _local"]),
   ("array", words
      ["array"]),
   ("collections", words
      ["OrderedDict defaultdict deque"]),
   ("datetime", words
      ["date datetime time timedelta timezone tzinfo"]),
   ("decimal", words
      ["Context Decimal"]),
   ("functools", words
      ["partial"]),
   ("itertools", words
      ["accumulate chain combinations combinations_with_replacement compress count cycle dropwhile",
       "filterfalse groupby islice pairwise permutations product repeat starmap takewhile zip_longest"]),
   ("mmap", words
      ["mmap"]),
   ("operator", words
      ["attrgetter itemgetter methodcaller"]),
   ("pickle", words
      ["PickleBuffer"]),
   ("re", words
      ["Match Pattern"]),
   ("sqlite3", words
      ["Blob Connection Cursor PrepareProtocol Row"]),
   ("ssl", words
      ["SSLError"]),
   ("types", words
      ["GenericAlias SimpleNamespace UnionType"]),
   ("unicodedata", words
      ["UCD"]),
   ("weakref", words
      ["CallableProxyType ProxyType ReferenceType"]),
   ("xml.etree.ElementTree", words
      ["Element TreeBuilder XMLParser"]),
   ("zoneinfo", words
      ["ZoneInfo"])]

def standardSubmodules : List String :=
  words
    ["asyncio.base_events asyncio.base_futures asyncio.base_subprocess asyncio.base_tasks asyncio.constants",
     "asyncio.coroutines asyncio.events asyncio.exceptions asyncio.format_helpers asyncio.futures",
     "asyncio.locks asyncio.log asyncio.mixins asyncio.proactor_events asyncio.protocols asyncio.queues",
     "asyncio.runners asyncio.selector_events asyncio.sslproto asyncio.staggered asyncio.streams",
     "asyncio.subprocess asyncio.taskgroups asyncio.tasks asyncio.threads asyncio.timeouts asyncio.transports",
     "asyncio.trsock asyncio.unix_events collections.abc concurrent.futures concurrent.futures.process",
     "concurrent.futures.thread ctypes.macholib ctypes.macholib.dyld ctypes.macholib.dylib",
     "ctypes.macholib.framework ctypes.util ctypes.wintypes curses.ascii curses.panel curses.textpad dbm.dumb",
     "dbm.gnu dbm.ndbm email.base64mime email.charset email.contentmanager email.encoders email.errors",
     "email.feedparser email.generator email.header email.headerregistry email.iterators email.message",
     "email.mime email.mime.application email.mime.audio email.mime.base email.mime.image email.mime.message",
     "email.mime.multipart email.mime.nonmultipart email.mime.text email.parser email.policy email.quoprimime",
     "email.utils html.entities html.parser http.client http.cookiejar http.cookies http.server importlib.abc",
     "importlib.machinery importlib.metadata importlib.readers importlib.resources importlib.resources.abc",
     "importlib.resources.readers importlib.resources.simple importlib.simple importlib.util json.decoder",
     "json.encoder json.scanner json.tool logging.config logging.handlers multiprocessing.connection",
     "multiprocessing.context multiprocessing.dummy multiprocessing.dummy.connection",
     "multiprocessing.forkserver multiprocessing.heap multiprocessing.managers multiprocessing.pool",
     "multiprocessing.popen_fork multiprocessing.popen_forkserver multiprocessing.popen_spawn_posix",
     "multiprocessing.process multiprocessing.queues multiprocessing.reduction multiprocessing.resource_sharer",
     "multiprocessing.resource_tracker multiprocessing.shared_memory multiprocessing.sharedctypes",
     "multiprocessing.spawn multiprocessing.synchronize multiprocessing.util os.path sqlite3.dbapi2",
     "sqlite3.dump unittest.async_case unittest.case unittest.loader unittest.main unittest.mock",
     "unittest.result unittest.runner unittest.signals unittest.suite unittest.util urllib.error urllib.parse",
     "urllib.request urllib.response urllib.robotparser wsgiref.handlers wsgiref.headers wsgiref.simple_server",
     "wsgiref.types wsgiref.util wsgiref.validate xml.dom xml.dom.NodeFilter xml.dom.domreg",
     "xml.dom.expatbuilder xml.dom.minicompat xml.dom.minidom xml.dom.pulldom xml.dom.xmlbuilder xml.etree",
     "xml.etree.ElementInclude xml.etree.ElementPath xml.etree.ElementTree xml.etree.cElementTree xml.parsers",
     "xml.parsers.expat xml.sax xml.sax.expatreader xml.sax.handler xml.sax.saxutils xml.sax.xmlreader"]

end Wiring.Container.Library
