import Wiring.Container.Library.Standard

/-!
What else is in the modules of the standard library: functions, other modules, and constants.
-/

namespace Wiring.Container.Library

def standardFunctions : List (String × List String) :=
  [("abc", words
      ["abstractmethod update_abstractmethods"]),
   ("ast", words
      ["copy_location dump fix_missing_locations get_docstring get_source_segment increment_lineno",
       "iter_child_nodes iter_fields literal_eval main parse unparse walk"]),
   ("asyncio", words
      ["all_tasks as_completed create_subprocess_exec create_subprocess_shell create_task current_task",
       "ensure_future gather get_child_watcher get_event_loop_policy iscoroutine iscoroutinefunction",
       "isfuture new_event_loop open_connection open_unix_connection run run_coroutine_threadsafe",
       "set_child_watcher set_event_loop set_event_loop_policy shield sleep start_server start_unix_server",
       "timeout timeout_at to_thread wait wait_for wrap_future"]),
   ("base64", words
      ["a85decode a85encode b16decode b16encode b32decode b32encode b32hexdecode b32hexencode b64decode",
       "b64encode b85decode b85encode decode decodebytes encode encodebytes main standard_b64decode",
       "standard_b64encode test urlsafe_b64decode urlsafe_b64encode"]),
   ("bz2", words
      ["compress decompress open"]),
   ("calendar", words
      ["format formatstring isleap leapdays main monthrange setfirstweekday timegm weekday"]),
   ("code", words
      ["compile_command interact"]),
   ("codecs", words
      ["EncodedFile getdecoder getencoder getincrementaldecoder getincrementalencoder getreader getwriter",
       "iterdecode iterencode make_encoding_map make_identity_dict open"]),
   ("collections", words
      ["namedtuple"]),
   ("colorsys", words
      ["hls_to_rgb hsv_to_rgb rgb_to_hls rgb_to_hsv rgb_to_yiq yiq_to_rgb"]),
   ("concurrent.futures", words
      ["as_completed wait"]),
   ("contextlib", words
      ["asynccontextmanager contextmanager"]),
   ("copy", words
      ["copy deepcopy"]),
   ("copyreg", words
      ["add_extension clear_extension_cache constructor pickle pickle_complex pickle_union remove_extension"]),
   ("ctypes", words
      ["ARRAY CFUNCTYPE PYFUNCTYPE SetPointerType cast create_string_buffer create_unicode_buffer string_at",
       "wstring_at"]),
   ("dataclasses", words
      ["asdict astuple dataclass field fields is_dataclass make_dataclass replace"]),
   ("difflib", words
      ["IS_CHARACTER_JUNK IS_LINE_JUNK context_diff diff_bytes get_close_matches ndiff restore unified_diff"]),
   ("dis", words
      ["code_info dis disassemble distb findlabels findlinestarts get_instructions main pretty_flags",
       "show_code"]),
   ("doctest", words
      ["DocFileSuite DocFileTest DocTestSuite debug debug_script debug_src register_optionflag",
       "run_docstring_examples script_from_examples set_unittest_reportflags testfile testmod testsource"]),
   ("email", words
      ["message_from_binary_file message_from_bytes message_from_file message_from_string"]),
   ("email.message", words
      ["decode_b"]),
   ("email.utils", words
      ["collapse_rfc2231_value decode_params decode_rfc2231 encode_rfc2231 format_datetime formataddr",
       "formatdate getaddresses localtime make_msgid mktime_tz parseaddr parsedate parsedate_to_datetime",
       "parsedate_tz quote unquote"]),
   ("enum", words
      ["bin global_enum global_enum_repr global_flag_repr global_str pickle_by_enum_name",
       "pickle_by_global_name show_flag_values unique"]),
   ("filecmp", words
      ["clear_cache cmp cmpfiles demo"]),
   ("fileinput", words
      ["close filelineno filename fileno hook_compressed hook_encoded input isfirstline isstdin lineno",
       "nextfile"]),
   ("fnmatch", words
      ["filter fnmatch fnmatchcase translate"]),
   ("functools", words
      ["cache lru_cache singledispatch total_ordering update_wrapper wraps"]),
   ("genericpath", words
      ["commonprefix exists getatime getctime getmtime getsize isdir isfile samefile sameopenfile samestat"]),
   ("getopt", words
      ["do_longs do_shorts getopt gnu_getopt long_has_args short_has_arg"]),
   ("getpass", words
      ["fallback_getpass getuser unix_getpass win_getpass"]),
   ("gettext", words
      ["bindtextdomain c2py dgettext dngettext dnpgettext dpgettext find gettext install ngettext npgettext",
       "pgettext textdomain translation"]),
   ("glob", words
      ["escape glob glob0 glob1 has_magic iglob"]),
   ("gzip", words
      ["compress decompress main open write32u"]),
   ("hashlib", words
      ["file_digest"]),
   ("heapq", words
      ["merge nlargest nsmallest"]),
   ("hmac", words
      ["digest new"]),
   ("html", words
      ["escape unescape"]),
   ("html.parser", words
      ["unescape"]),
   ("http.client", words
      ["parse_headers"]),
   ("http.server", words
      ["executable nobody_uid test"]),
   ("imaplib", words
      ["Int2AP Internaldate2tuple ParseFlags Time2Internaldate"]),
   ("importlib", words
      ["find_loader import_module invalidate_caches reload"]),
   ("importlib.machinery", words
      ["all_suffixes"]),
   ("importlib.metadata", words
      ["always_iterable distribution distributions entry_points files import_module metadata method_cache",
       "packages_distributions pass_none requires unique_everseen version"]),
   ("importlib.resources", words
      ["as_file contents files is_resource open_binary open_text path read_binary read_text"]),
   ("importlib.util", words
      ["find_spec module_for_loader resolve_name set_loader set_package source_hash"]),
   ("inspect", words
      ["classify_class_attrs cleandoc currentframe findsource formatannotation formatannotationrelativeto",
       "formatargvalues get_annotations getabsfile getargs getargvalues getattr_static getblock getcallargs",
       "getclasstree getclosurevars getcomments getcoroutinelocals getcoroutinestate getdoc getfile",
       "getframeinfo getfullargspec getgeneratorlocals getgeneratorstate getinnerframes getlineno getmembers",
       "getmembers_static getmodule getmodulename getmro getouterframes getsource getsourcefile",
       "getsourcelines indentsize isabstract isasyncgen isasyncgenfunction isawaitable isbuiltin isclass",
       "iscode iscoroutine iscoroutinefunction isdatadescriptor isframe isfunction isgenerator",
       "isgeneratorfunction isgetsetdescriptor ismemberdescriptor ismethod ismethoddescriptor",
       "ismethodwrapper ismodule isroutine istraceback signature stack trace unwrap walktree"]),
   ("ipaddress", words
      ["collapse_addresses get_mixed_type_key ip_address ip_interface ip_network summarize_address_range",
       "v4_int_to_packed v6_int_to_packed"]),
   ("json", words
      ["detect_encoding dump dumps load loads"]),
   ("json.decoder", words
      ["JSONArray JSONObject py_scanstring"]),
   ("json.encoder", words
      ["py_encode_basestring py_encode_basestring_ascii"]),
   ("linecache", words
      ["checkcache clearcache getline getlines lazycache updatecache"]),
   ("locale", words
      ["atof atoi currency delocalize format format_string getdefaultlocale getlocale getpreferredencoding",
       "localeconv localize normalize resetlocale setlocale str"]),
   ("logging", words
      ["addLevelName basicConfig captureWarnings critical debug disable error exception fatal getLevelName",
       "getLevelNamesMapping getLogRecordFactory getLogger getLoggerClass info log makeLogRecord",
       "setLogRecordFactory setLoggerClass shutdown warn warning"]),
   ("logging.config", words
      ["dictConfig fileConfig listen stopListening valid_ident"]),
   ("lzma", words
      ["compress decompress open"]),
   ("mimetypes", words
      ["add_type guess_all_extensions guess_extension guess_type init read_mime_types"]),
   ("multiprocessing", words
      ["active_children current_process parent_process"]),
   ("multiprocessing.managers", words
      ["Array AutoProxy MakeProxyType RebuildProxy all_methods convert_to_error dispatch get_spawning_popen",
       "public_methods rebuild_as_list reduce_array"]),
   ("multiprocessing.pool", words
      ["mapstar rebuild_exc starmapstar wait worker"]),
   ("ntpath", words
      ["basename commonpath commonprefix dirname exists expanduser expandvars getatime getctime getmtime",
       "getsize isabs isdir isfile islink ismount join lexists normcase normpath relpath samefile",
       "sameopenfile samestat split splitdrive splitext"]),
   ("optparse", words
      ["check_builtin check_choice"]),
   ("os", words
      ["execl execle execlp execlpe execvp execvpe fdopen fsdecode fsencode fwalk get_exec_path getenv",
       "getenvb makedirs popen removedirs renames spawnl spawnle spawnlp spawnlpe spawnv spawnve spawnvp",
       "spawnvpe walk"]),
   ("os.path", words
      ["abspath basename commonpath commonprefix dirname exists expanduser expandvars getatime getctime",
       "getmtime getsize isabs isdir isfile islink ismount join lexists normcase normpath realpath relpath",
       "samefile sameopenfile samestat split splitdrive splitext"]),
   ("pdb", words
      ["find_function help lasti2lineno main pm post_mortem run runcall runctx runeval set_trace test"]),
   ("pickle", words
      ["decode_long encode_long whichmodule"]),
   ("pickletools", words
      ["dis genops optimize read_bytearray8 read_bytes1 read_bytes4 read_bytes8 read_decimalnl_long",
       "read_decimalnl_short read_float8 read_floatnl read_int4 read_long1 read_long4 read_string1",
       "read_string4 read_stringnl read_stringnl_noescape read_stringnl_noescape_pair read_uint1 read_uint2",
       "read_uint4 read_uint8 read_unicodestring1 read_unicodestring4 read_unicodestring8",
       "read_unicodestringnl"]),
   ("pkgutil", words
      ["extend_path find_loader get_data get_importer get_loader iter_importer_modules iter_importers",
       "iter_modules iter_zipimport_modules read_code resolve_name walk_packages"]),
   ("platform", words
      ["architecture freedesktop_os_release java_ver libc_ver mac_ver machine node platform processor",
       "python_branch python_build python_compiler python_implementation python_revision python_version",
       "python_version_tuple release system system_alias uname version win32_edition win32_is_iot win32_ver"]),
   ("plistlib", words
      ["dump dumps load loads"]),
   ("posixpath", words
      ["abspath basename commonpath commonprefix dirname exists expanduser expandvars getatime getctime",
       "getmtime getsize isabs isdir isfile islink ismount join lexists normcase normpath realpath relpath",
       "samefile sameopenfile samestat split splitdrive splitext"]),
   ("pprint", words
      ["isreadable isrecursive pformat pp pprint saferepr"]),
   ("profile", words
      ["main run runctx"]),
   ("pstats", words
      ["add_callers add_func_stats count_calls f8 func_get_function_name func_std_string func_strip_path"]),
   ("pty", words
      ["fork master_open openpty slave_open spawn"]),
   ("py_compile", words
      ["compile main"]),
   ("quopri", words
      ["decode decodestring encode encodestring ishex main needsquoting quote unhex"]),
   ("re", words
      ["compile escape findall finditer fullmatch match purge search split sub subn template"]),
   ("reprlib", words
      ["recursive_repr"]),
   ("runpy", words
      ["run_module run_path"]),
   ("secrets", words
      ["randbelow token_bytes token_hex token_urlsafe"]),
   ("shelve", words
      ["open"]),
   ("shlex", words
      ["join quote split"]),
   ("shutil", words
      ["chown copy copy2 copyfile copyfileobj copymode copystat copytree disk_usage get_archive_formats",
       "get_terminal_size get_unpack_formats ignore_patterns make_archive move register_archive_format",
       "register_unpack_format rmtree unpack_archive unregister_archive_format unregister_unpack_format",
       "which"]),
   ("signal", words
      ["getsignal pthread_sigmask signal sigpending sigwait valid_signals"]),
   ("site", words
      ["abs_paths addpackage addsitedir addsitepackages addusersitepackages check_enableusersite",
       "enablerlcompleter execsitecustomize execusercustomize getsitepackages getuserbase",
       "getusersitepackages main makepath removeduppaths setcopyright sethelper setquit venv"]),
   ("smtplib", words
      ["quoteaddr quotedata"]),
   ("socket", words
      ["create_connection create_server fromfd getaddrinfo getfqdn has_dualstack_ipv6 recv_fds send_fds",
       "socketpair"]),
   ("sqlite3", words
      ["DateFromTicks TimeFromTicks TimestampFromTicks enable_shared_cache"]),
   ("ssl", words
      ["DER_cert_to_PEM_cert PEM_cert_to_DER_cert cert_time_to_seconds create_default_context",
       "get_default_verify_paths get_protocol_name get_server_certificate match_hostname wrap_socket"]),
   ("statistics", words
      ["correlation covariance fmean geometric_mean harmonic_mean linear_regression mean median",
       "median_grouped median_high median_low mode multimode pstdev pvariance quantiles stdev variance"]),
   ("string", words
      ["capwords"]),
   ("stringprep", words
      ["in_table_a1 in_table_b1 in_table_c11 in_table_c11_c12 in_table_c12 in_table_c21 in_table_c21_c22",
       "in_table_c22 in_table_c3 in_table_c4 in_table_c5 in_table_c6 in_table_c7 in_table_c8 in_table_c9",
       "in_table_d1 in_table_d2 map_table_b2 map_table_b3"]),
   ("subprocess", words
      ["call check_call check_output getoutput getstatusoutput list2cmdline run"]),
   ("symtable", words
      ["symtable"]),
   ("sysconfig", words
      ["expand_makefile_vars get_config_h_filename get_config_var get_config_vars get_default_scheme",
       "get_makefile_filename get_path get_path_names get_paths get_platform get_preferred_scheme",
       "get_python_version get_scheme_names is_python_build parse_config_h"]),
   ("tabnanny", words
      ["check errprint format_witnesses main process_tokens"]),
   ("tarfile", words
      ["calc_chksums copyfileobj data_filter fully_trusted_filter is_tarfile itn main nti nts stn tar_filter"]),
   ("tempfile", words
      ["NamedTemporaryFile TemporaryFile gettempdir gettempdirb gettempprefix gettempprefixb mkdtemp mkstemp",
       "mktemp"]),
   ("textwrap", words
      ["dedent fill indent shorten wrap"]),
   ("threading", words
      ["RLock activeCount active_count currentThread current_thread enumerate getprofile gettrace",
       "main_thread setprofile settrace"]),
   ("timeit", words
      ["main reindent repeat timeit"]),
   ("token", words
      ["ISEOF ISNONTERMINAL ISTERMINAL"]),
   ("tokenize", words
      ["ISEOF ISNONTERMINAL ISTERMINAL any detect_encoding generate_tokens group main maybe open tokenize",
       "untokenize"]),
   ("tomllib", words
      ["load loads"]),
   ("trace", words
      ["main"]),
   ("traceback", words
      ["clear_frames extract_stack extract_tb format_exc format_exception format_exception_only format_list",
       "format_stack format_tb print_exc print_exception print_last print_list print_stack print_tb",
       "walk_stack walk_tb"]),
   ("tracemalloc", words
      ["get_object_traceback take_snapshot"]),
   ("types", words
      ["coroutine new_class prepare_class resolve_bases"]),
   ("unittest", words
      ["addModuleCleanup doModuleCleanups enterModuleContext expectedFailure findTestCases getTestCaseNames",
       "installHandler load_tests makeSuite registerResult removeHandler removeResult skip skipIf skipUnless"]),
   ("unittest.mock", words
      ["create_autospec mock_open patch safe_repr seal"]),
   ("urllib.parse", words
      ["clear_cache parse_qs parse_qsl quote quote_from_bytes quote_plus splitattr splithost splitnport",
       "splitpasswd splitport splitquery splittag splittype splituser splitvalue to_bytes unquote",
       "unquote_plus unquote_to_bytes unwrap urldefrag urlencode urljoin urlparse urlunparse urlunsplit"]),
   ("urllib.request", words
      ["build_opener ftperrors getproxies_environment install_opener localhost noheaders parse_http_list",
       "parse_keqv_list pathname2url proxy_bypass_environment quote request_host thishost unquote",
       "unquote_to_bytes unwrap url2pathname urlcleanup urljoin urlopen urlparse urlretrieve urlunparse"]),
   ("uuid", words
      ["getnode uuid1 uuid3 uuid4 uuid5"]),
   ("venv", words
      ["create main"]),
   ("warnings", words
      ["filterwarnings formatwarning resetwarnings showwarning simplefilter"]),
   ("wave", words
      ["open"]),
   ("webbrowser", words
      ["get main open open_new open_new_tab register register_X_browsers register_standard_browsers"]),
   ("xml.etree.ElementTree", words
      ["Comment ProcessingInstruction XML XMLID canonicalize dump fromstringlist indent iselement iterparse",
       "parse register_namespace tostring tostringlist"]),
   ("zipapp", words
      ["create_archive get_interpreter main"]),
   ("zipfile", words
      ["is_zipfile main"]),
   ("zoneinfo", words
      ["available_timezones reset_tzpath"])]

def standardBuiltins : List (String × List String) :=
  [("abc", words
      ["get_cache_token"]),
   ("asyncio", words
      ["get_event_loop get_running_loop"]),
   ("atexit", words
      ["register unregister"]),
   ("binascii", words
      ["a2b_base64 a2b_hex a2b_qp a2b_uu b2a_base64 b2a_hex b2a_qp b2a_uu crc32 crc_hqx hexlify unhexlify"]),
   ("bisect", words
      ["bisect_left bisect_right insort_left insort_right"]),
   ("calendar", words
      ["prmonth prweek"]),
   ("cmath", words
      ["acos acosh asin asinh atan atanh cos cosh exp isclose isfinite isinf isnan log log10 phase polar",
       "rect sin sinh sqrt tan tanh"]),
   ("codecs", words
      ["ascii_decode ascii_encode backslashreplace_errors charmap_build charmap_decode charmap_encode decode",
       "encode escape_decode escape_encode ignore_errors latin_1_decode latin_1_encode lookup lookup_error",
       "namereplace_errors raw_unicode_escape_decode raw_unicode_escape_encode readbuffer_encode register",
       "register_error replace_errors strict_errors unicode_escape_decode unicode_escape_encode unregister",
       "utf_16_be_decode utf_16_be_encode utf_16_decode utf_16_encode utf_16_ex_decode utf_16_le_decode",
       "utf_16_le_encode utf_32_be_decode utf_32_be_encode utf_32_decode utf_32_encode utf_32_ex_decode",
       "utf_32_le_decode utf_32_le_encode utf_7_decode utf_7_encode utf_8_decode utf_8_encode",
       "xmlcharrefreplace_errors"]),
   ("contextvars", words
      ["copy_context"]),
   ("csv", words
      ["field_size_limit get_dialect list_dialects reader register_dialect unregister_dialect writer"]),
   ("ctypes", words
      ["POINTER addressof alignment byref get_errno pointer resize set_errno sizeof"]),
   ("decimal", words
      ["getcontext localcontext setcontext"]),
   ("dis", words
      ["stack_effect"]),
   ("faulthandler", words
      ["cancel_dump_traceback_later disable dump_traceback dump_traceback_later enable is_enabled register",
       "unregister"]),
   ("fcntl", words
      ["fcntl flock ioctl lockf"]),
   ("functools", words
      ["cmp_to_key reduce"]),
   ("gc", words
      ["collect disable enable freeze get_count get_debug get_freeze_count get_objects get_referents",
       "get_referrers get_stats get_threshold is_finalized is_tracked isenabled set_debug set_threshold",
       "unfreeze"]),
   ("grp", words
      ["getgrall getgrgid getgrnam"]),
   ("hashlib", words
      ["pbkdf2_hmac scrypt"]),
   ("heapq", words
      ["heapify heappop heappush heappushpop heapreplace"]),
   ("hmac", words
      ["compare_digest"]),
   ("io", words
      ["open open_code text_encoding"]),
   ("itertools", words
      ["tee"]),
   ("json.encoder", words
      ["encode_basestring encode_basestring_ascii"]),
   ("locale", words
      ["bind_textdomain_codeset bindtextdomain dcgettext dgettext getencoding gettext nl_langinfo strcoll",
       "strxfrm textdomain"]),
   ("lzma", words
      ["is_check_supported"]),
   ("marshal", words
      ["dump dumps load loads"]),
   ("math", words
      ["acos acosh asin asinh atan atan2 atanh cbrt ceil comb copysign cos cosh degrees dist erf erfc exp",
       "exp2 expm1 fabs factorial floor fmod frexp fsum gamma gcd hypot isclose isfinite isinf isnan isqrt",
       "lcm ldexp lgamma log log10 log1p log2 modf nextafter perm pow prod radians remainder sin sinh sqrt",
       "tan tanh trunc ulp"]),
   ("multiprocessing", words
      ["Array Barrier BoundedSemaphore Condition Event JoinableQueue Lock Manager Pipe Pool Queue RLock",
       "RawArray RawValue Semaphore SimpleQueue Value allow_connection_pickling cpu_count freeze_support",
       "get_all_start_methods get_context get_logger get_start_method log_to_stderr set_executable",
       "set_forkserver_preload set_start_method"]),
   ("opcode", words
      ["stack_effect"]),
   ("operator", words
      ["abs add and_ call concat contains countOf delitem eq floordiv ge getitem gt iadd iand iconcat",
       "ifloordiv ilshift imatmul imod imul index indexOf inv invert ior ipow irshift is_ is_not isub",
       "itruediv ixor le length_hint lshift lt matmul mod mul ne neg not_ or_ pos pow rshift setitem sub",
       "truediv truth xor"]),
   ("os", words
      ["WCOREDUMP WEXITSTATUS WIFCONTINUED WIFEXITED WIFSIGNALED WIFSTOPPED WSTOPSIG WTERMSIG abort access",
       "chdir chmod chown chroot close closerange confstr cpu_count ctermid device_encoding dup dup2 eventfd",
       "eventfd_read eventfd_write execv execve fchdir fchmod fchown fdatasync fork forkpty fpathconf fspath",
       "fstat fstatvfs fsync ftruncate get_blocking get_inheritable get_terminal_size getcwd getcwdb getegid",
       "geteuid getgid getgrouplist getgroups getloadavg getlogin getpgid getpgrp getpid getppid getpriority",
       "getresgid getresuid getsid getuid getxattr initgroups isatty kill killpg lchown link listdir",
       "listxattr lockf login_tty lseek lstat major makedev minor mkdir mkfifo mknod nice open openpty",
       "pathconf pipe pipe2 posix_fadvise posix_fallocate posix_spawn posix_spawnp pread preadv putenv",
       "pwrite pwritev read readlink readv register_at_fork remove removexattr rename replace rmdir scandir",
       "sched_get_priority_max sched_get_priority_min sched_getaffinity sched_getparam sched_getscheduler",
       "sched_rr_get_interval sched_setaffinity sched_setparam sched_setscheduler sched_yield sendfile",
       "set_blocking set_inheritable setegid seteuid setgid setgroups setpgid setpgrp setpriority setregid",
       "setresgid setresuid setreuid setsid setuid setxattr splice stat statvfs strerror symlink sync",
       "sysconf system tcgetpgrp tcsetpgrp times truncate ttyname umask uname unlink unsetenv urandom utime",
       "wait wait3 wait4 waitid waitpid waitstatus_to_exitcode write writev"]),
   ("pickle", words
      ["dump dumps load loads"]),
   ("pwd", words
      ["getpwall getpwnam getpwuid"]),
   ("random", words
      ["betavariate choice choices expovariate gammavariate gauss getrandbits getstate lognormvariate",
       "normalvariate paretovariate randbytes randint random randrange sample seed setstate shuffle",
       "triangular uniform vonmisesvariate weibullvariate"]),
   ("reprlib", words
      ["repr"]),
   ("resource", words
      ["getpagesize getrlimit getrusage prlimit setrlimit"]),
   ("secrets", words
      ["choice compare_digest"]),
   ("select", words
      ["poll select"]),
   ("signal", words
      ["alarm default_int_handler getitimer pause pthread_kill raise_signal set_wakeup_fd setitimer",
       "siginterrupt sigtimedwait sigwaitinfo strsignal"]),
   ("socket", words
      ["CMSG_LEN CMSG_SPACE close dup getdefaulttimeout gethostbyaddr gethostbyname gethostbyname_ex",
       "gethostname getnameinfo getprotobyname getservbyname getservbyport htonl htons if_indextoname",
       "if_nameindex if_nametoindex inet_aton inet_ntoa inet_ntop inet_pton ntohl ntohs setdefaulttimeout",
       "sethostname"]),
   ("sqlite3", words
      ["adapt complete_statement connect enable_callback_tracebacks register_adapter register_converter"]),
   ("ssl", words
      ["RAND_add RAND_bytes RAND_pseudo_bytes RAND_status"]),
   ("stat", words
      ["S_IFMT S_IMODE S_ISBLK S_ISCHR S_ISDIR S_ISDOOR S_ISFIFO S_ISLNK S_ISPORT S_ISREG S_ISSOCK S_ISWHT",
       "filemode"]),
   ("struct", words
      ["calcsize iter_unpack pack pack_into unpack unpack_from"]),
   ("sys", words
      ["addaudithook audit breakpointhook call_tracing displayhook exc_info excepthook exception exit",
       "get_asyncgen_hooks get_coroutine_origin_tracking_depth get_int_max_str_digits getallocatedblocks",
       "getdefaultencoding getdlopenflags getfilesystemencodeerrors getfilesystemencoding getprofile",
       "getrecursionlimit getrefcount getsizeof getswitchinterval gettrace intern is_finalizing",
       "set_asyncgen_hooks set_coroutine_origin_tracking_depth set_int_max_str_digits setdlopenflags",
       "setprofile setrecursionlimit setswitchinterval settrace unraisablehook"]),
   ("syslog", words
      ["LOG_MASK LOG_UPTO closelog openlog setlogmask syslog"]),
   ("tarfile", words
      ["open"]),
   ("threading", words
      ["get_ident get_native_id stack_size"]),
   ("time", words
      ["asctime clock_getres clock_gettime clock_gettime_ns clock_settime clock_settime_ns ctime",
       "get_clock_info gmtime localtime mktime monotonic monotonic_ns perf_counter perf_counter_ns",
       "process_time process_time_ns pthread_getcpuclockid sleep strftime strptime thread_time",
       "thread_time_ns time time_ns tzset"]),
   ("tracemalloc", words
      ["clear_traces get_traceback_limit get_traced_memory get_tracemalloc_memory is_tracing reset_peak",
       "start stop"]),
   ("unicodedata", words
      ["bidirectional category combining decimal decomposition digit east_asian_width is_normalized lookup",
       "mirrored name normalize numeric"]),
   ("warnings", words
      ["warn warn_explicit"]),
   ("weakref", words
      ["getweakrefcount getweakrefs proxy"]),
   ("xml.etree.ElementTree", words
      ["SubElement"]),
   ("zlib", words
      ["adler32 compress compressobj crc32 decompress decompressobj"])]

def standardFunctionNames : List (String × String × String) :=
  [("ctypes", "c_buffer", "create_string_buffer"), ("dis", "disco", "disassemble"),
   ("getpass", "getpass", "unix_getpass"), ("gettext", "Catalog", "translation"),
   ("hashlib", "new", "__hash_new"), ("logging", "currentframe", "<lambda>"),
   ("ntpath", "abspath", "_abspath_fallback"), ("ntpath", "realpath", "_abspath_fallback"),
   ("urllib.request", "getproxies", "getproxies_environment"),
   ("urllib.request", "proxy_bypass", "proxy_bypass_environment"),
   ("xml.etree.ElementTree", "PI", "ProcessingInstruction"), ("xml.etree.ElementTree", "fromstring", "XML")]

def standardBuiltinNames : List (String × String × String) :=
  [("bisect", "bisect", "bisect_right"), ("bisect", "insort", "insort_right"),
   ("calendar", "calendar", "formatyear"), ("calendar", "firstweekday", "getfirstweekday"),
   ("calendar", "month", "formatmonth"), ("calendar", "monthcalendar", "monthdayscalendar"),
   ("calendar", "prcal", "pryear"), ("calendar", "week", "formatweek"),
   ("calendar", "weekheader", "formatweekheader"), ("hashlib", "md5", "openssl_md5"),
   ("hashlib", "sha1", "openssl_sha1"), ("hashlib", "sha224", "openssl_sha224"),
   ("hashlib", "sha256", "openssl_sha256"), ("hashlib", "sha384", "openssl_sha384"),
   ("hashlib", "sha3_224", "openssl_sha3_224"), ("hashlib", "sha3_256", "openssl_sha3_256"),
   ("hashlib", "sha3_384", "openssl_sha3_384"), ("hashlib", "sha3_512", "openssl_sha3_512"),
   ("hashlib", "sha512", "openssl_sha512"), ("hashlib", "shake_128", "openssl_shake_128"),
   ("hashlib", "shake_256", "openssl_shake_256"), ("json.encoder", "c_encode_basestring", "encode_basestring"),
   ("json.encoder", "c_encode_basestring_ascii", "encode_basestring_ascii"),
   ("keyword", "iskeyword", "__contains__"), ("keyword", "issoftkeyword", "__contains__"),
   ("secrets", "randbits", "getrandbits"), ("threading", "Lock", "allocate_lock"),
   ("threading", "excepthook", "_excepthook"), ("timeit", "default_timer", "perf_counter")]

def standardImports : List (String × List String) :=
  [("argparse", words
      ["warnings"]),
   ("ast", words
      ["sys"]),
   ("asyncio", words
      ["sys"]),
   ("base64", words
      ["binascii re struct"]),
   ("bz2", words
      ["io os"]),
   ("calendar", words
      ["datetime sys"]),
   ("code", words
      ["sys traceback"]),
   ("codecs", words
      ["builtins sys"]),
   ("configparser", words
      ["functools io itertools os re sys warnings"]),
   ("contextlib", words
      ["abc os sys"]),
   ("csv", words
      ["re"]),
   ("dataclasses", words
      ["abc builtins copy functools inspect itertools keyword re sys types"]),
   ("datetime", words
      ["sys"]),
   ("dis", words
      ["collections io sys types"]),
   ("doctest", words
      ["difflib inspect linecache os pdb re sys traceback unittest"]),
   ("email.message", words
      ["binascii quopri re"]),
   ("email.utils", words
      ["datetime os random re socket time urllib"]),
   ("enum", words
      ["sys"]),
   ("filecmp", words
      ["os stat"]),
   ("fileinput", words
      ["io os sys"]),
   ("fnmatch", words
      ["functools os posixpath re"]),
   ("fractions", words
      ["math numbers operator re sys"]),
   ("genericpath", words
      ["os stat"]),
   ("getopt", words
      ["os"]),
   ("getpass", words
      ["contextlib io os sys termios warnings"]),
   ("gettext", words
      ["operator os re sys"]),
   ("glob", words
      ["contextlib fnmatch itertools os re stat sys"]),
   ("gzip", words
      ["builtins io os struct sys time zlib"]),
   ("html.parser", words
      ["re"]),
   ("http.client", words
      ["collections email errno http io re socket ssl sys"]),
   ("http.cookies", words
      ["re string types"]),
   ("http.server", words
      ["copy datetime email html http io itertools mimetypes os posixpath select shutil socket socketserver",
       "sys time urllib"]),
   ("imaplib", words
      ["binascii calendar errno random re socket ssl subprocess sys time"]),
   ("importlib", words
      ["sys warnings"]),
   ("importlib.abc", words
      ["abc warnings"]),
   ("importlib.metadata", words
      ["abc collections csv email functools itertools operator os pathlib posixpath re sys textwrap warnings",
       "zipfile"]),
   ("importlib.util", words
      ["functools sys threading types warnings"]),
   ("inspect", words
      ["abc ast builtins collections dis enum functools importlib itertools linecache os re sys token",
       "tokenize types"]),
   ("io", words
      ["abc"]),
   ("ipaddress", words
      ["functools"]),
   ("json", words
      ["codecs"]),
   ("json.decoder", words
      ["re"]),
   ("json.encoder", words
      ["re"]),
   ("linecache", words
      ["functools os sys tokenize"]),
   ("locale", words
      ["encodings functools re sys"]),
   ("logging", words
      ["atexit collections io os re sys threading time traceback warnings weakref"]),
   ("logging.config", words
      ["errno io logging os queue re struct threading traceback"]),
   ("logging.handlers", words
      ["copy io logging os pickle queue re socket struct threading time"]),
   ("lzma", words
      ["builtins io os"]),
   ("mailbox", words
      ["calendar contextlib copy email errno fcntl io os socket time warnings"]),
   ("mimetypes", words
      ["os posixpath sys urllib"]),
   ("multiprocessing", words
      ["sys"]),
   ("multiprocessing.managers", words
      ["array os queue signal sys threading time types"]),
   ("multiprocessing.pool", words
      ["collections itertools os queue threading time traceback types warnings"]),
   ("netrc", words
      ["os shlex stat"]),
   ("ntpath", words
      ["genericpath os stat sys"]),
   ("optparse", words
      ["os sys textwrap"]),
   ("os", words
      ["abc sys"]),
   ("os.path", words
      ["genericpath os stat sys"]),
   ("pathlib", words
      ["fnmatch functools io ntpath os posixpath re sys warnings"]),
   ("pdb", words
      ["bdb cmd code dis functools glob inspect io linecache os pprint re signal sys tokenize traceback"]),
   ("pickle", words
      ["codecs io re sys"]),
   ("pickletools", words
      ["codecs io pickle re sys"]),
   ("pkgutil", words
      ["importlib os sys warnings zipimport"]),
   ("platform", words
      ["collections functools itertools os re sys"]),
   ("plistlib", words
      ["binascii codecs datetime enum itertools os re struct"]),
   ("poplib", words
      ["errno re socket ssl sys"]),
   ("posixpath", words
      ["genericpath os stat sys"]),
   ("pprint", words
      ["re"]),
   ("profile", words
      ["io marshal sys time"]),
   ("pstats", words
      ["marshal os re sys time"]),
   ("pty", words
      ["os sys tty"]),
   ("py_compile", words
      ["enum importlib os sys traceback"]),
   ("queue", words
      ["threading types"]),
   ("re", words
      ["copyreg enum functools"]),
   ("reprlib", words
      ["builtins"]),
   ("runpy", words
      ["importlib io os sys"]),
   ("sched", words
      ["heapq threading time"]),
   ("secrets", words
      ["base64 binascii"]),
   ("selectors", words
      ["math select sys"]),
   ("shelve", words
      ["collections"]),
   ("shlex", words
      ["os re sys"]),
   ("shutil", words
      ["collections errno fnmatch os posix stat sys"]),
   ("site", words
      ["builtins io os stat sys"]),
   ("smtplib", words
      ["base64 copy datetime email hmac io re socket ssl sys"]),
   ("socket", words
      ["array errno io os selectors sys"]),
   ("socketserver", words
      ["os selectors socket sys threading"]),
   ("sqlite3", words
      ["collections datetime time"]),
   ("ssl", words
      ["base64 errno os sys warnings"]),
   ("statistics", words
      ["math numbers random sys"]),
   ("subprocess", words
      ["builtins contextlib errno fcntl io locale os select selectors signal sys threading time types",
       "warnings"]),
   ("symtable", words
      ["weakref"]),
   ("sysconfig", words
      ["os sys"]),
   ("tabnanny", words
      ["os sys tokenize"]),
   ("tarfile", words
      ["copy grp io os pwd re shutil stat struct sys time warnings"]),
   ("textwrap", words
      ["re"]),
   ("threading", words
      ["functools"]),
   ("timeit", words
      ["gc itertools sys time"]),
   ("tokenize", words
      ["collections functools re sys"]),
   ("trace", words
      ["dis gc inspect io linecache os pickle sys sysconfig threading token tokenize"]),
   ("traceback", words
      ["collections itertools linecache sys textwrap"]),
   ("tracemalloc", words
      ["fnmatch linecache os pickle"]),
   ("unittest.mock", words
      ["asyncio builtins contextlib inspect io pkgutil pprint sys"]),
   ("urllib.error", words
      ["io urllib"]),
   ("urllib.parse", words
      ["functools ipaddress re sys types warnings"]),
   ("urllib.request", words
      ["base64 bisect contextlib email hashlib http io os posixpath re socket ssl string sys tempfile time",
       "warnings"]),
   ("uuid", words
      ["os platform sys"]),
   ("venv", words
      ["logging os shutil subprocess sys sysconfig types"]),
   ("warnings", words
      ["sys"]),
   ("wave", words
      ["builtins struct sys"]),
   ("weakref", words
      ["itertools sys"]),
   ("webbrowser", words
      ["os shlex shutil subprocess sys threading warnings"]),
   ("xml.etree.ElementTree", words
      ["collections contextlib io re sys warnings weakref"]),
   ("zipapp", words
      ["contextlib os pathlib shutil stat sys zipfile"]),
   ("zipfile", words
      ["binascii bz2 contextlib importlib io itertools lzma os pathlib posixpath re shutil stat struct sys",
       "threading time zlib"]),
   ("zipimport", words
      ["marshal sys time"])]

def standardImportNames : List (String × String × String) :=
  [("email.message", "errors", "email.errors"), ("email.message", "utils", "email.utils"),
   ("enum", "bltns", "builtins"), ("importlib.abc", "machinery", "importlib.machinery"),
   ("json.decoder", "scanner", "json.scanner"), ("multiprocessing", "reducer", "multiprocessing.reduction"),
   ("multiprocessing.managers", "connection", "multiprocessing.connection"),
   ("multiprocessing.managers", "pool", "multiprocessing.pool"),
   ("multiprocessing.managers", "process", "multiprocessing.process"),
   ("multiprocessing.managers", "reduction", "multiprocessing.reduction"),
   ("multiprocessing.managers", "shared_memory", "multiprocessing.shared_memory"),
   ("multiprocessing.managers", "util", "multiprocessing.util"),
   ("multiprocessing.pool", "util", "multiprocessing.util"), ("os", "path", "posixpath"), ("os", "st", "stat"),
   ("xml.etree.ElementTree", "ElementPath", "xml.etree.ElementPath")]

def standardNumbers : List (String × List String) :=
  [("ast", words
      ["PyCF_ALLOW_TOP_LEVEL_AWAIT=8192 PyCF_ONLY_AST=1024 PyCF_TYPE_COMMENTS=4096"]),
   ("base64", words
      ["MAXBINSIZE=57 MAXLINESIZE=76"]),
   ("calendar", words
      ["EPOCH=1970 FRIDAY=4 February=2 January=1 MONDAY=0 SATURDAY=5 SUNDAY=6 THURSDAY=3 TUESDAY=1",
       "WEDNESDAY=2"]),
   ("csv", words
      ["QUOTE_ALL=1 QUOTE_MINIMAL=0 QUOTE_NONE=3 QUOTE_NONNUMERIC=2"]),
   ("datetime", words
      ["MAXYEAR=9999 MINYEAR=1"]),
   ("decimal", words
      ["MAX_EMAX=999999999999999999 MAX_PREC=999999999999999999 MIN_EMIN=-999999999999999999",
       "MIN_ETINY=-1999999999999999997"]),
   ("errno", words
      ["E2BIG=7 EACCES=13 EADDRINUSE=98 EADDRNOTAVAIL=99 EADV=68 EAFNOSUPPORT=97 EAGAIN=11 EALREADY=114",
       "EBADE=52 EBADF=9 EBADFD=77 EBADMSG=74 EBADR=53 EBADRQC=56 EBADSLT=57 EBFONT=59 EBUSY=16",
       "ECANCELED=125 ECHILD=10 ECHRNG=44 ECOMM=70 ECONNABORTED=103 ECONNREFUSED=111 ECONNRESET=104",
       "EDEADLK=35 EDEADLOCK=35 EDESTADDRREQ=89 EDOM=33 EDOTDOT=73 EDQUOT=122 EEXIST=17 EFAULT=14 EFBIG=27",
       "EHOSTDOWN=112 EHOSTUNREACH=113 EIDRM=43 EILSEQ=84 EINPROGRESS=115 EINTR=4 EINVAL=22 EIO=5",
       "EISCONN=106 EISDIR=21 EISNAM=120 EKEYEXPIRED=127 EKEYREJECTED=129 EKEYREVOKED=128 EL2HLT=51",
       "EL2NSYNC=45 EL3HLT=46 EL3RST=47 ELIBACC=79 ELIBBAD=80 ELIBEXEC=83 ELIBMAX=82 ELIBSCN=81 ELNRNG=48",
       "ELOOP=40 EMEDIUMTYPE=124 EMFILE=24 EMLINK=31 EMSGSIZE=90 EMULTIHOP=72 ENAMETOOLONG=36 ENAVAIL=119",
       "ENETDOWN=100 ENETRESET=102 ENETUNREACH=101 ENFILE=23 ENOANO=55 ENOBUFS=105 ENOCSI=50 ENODATA=61",
       "ENODEV=19 ENOENT=2 ENOEXEC=8 ENOKEY=126 ENOLCK=37 ENOLINK=67 ENOMEDIUM=123 ENOMEM=12 ENOMSG=42",
       "ENONET=64 ENOPKG=65 ENOPROTOOPT=92 ENOSPC=28 ENOSR=63 ENOSTR=60 ENOSYS=38 ENOTBLK=15 ENOTCONN=107",
       "ENOTDIR=20 ENOTEMPTY=39 ENOTNAM=118 ENOTRECOVERABLE=131 ENOTSOCK=88 ENOTSUP=95 ENOTTY=25 ENOTUNIQ=76",
       "ENXIO=6 EOPNOTSUPP=95 EOVERFLOW=75 EOWNERDEAD=130 EPERM=1 EPFNOSUPPORT=96 EPIPE=32 EPROTO=71",
       "EPROTONOSUPPORT=93 EPROTOTYPE=91 ERANGE=34 EREMCHG=78 EREMOTE=66 EREMOTEIO=121 ERESTART=85",
       "ERFKILL=132 EROFS=30 ESHUTDOWN=108 ESOCKTNOSUPPORT=94 ESPIPE=29 ESRCH=3 ESRMNT=69 ESTALE=116",
       "ESTRPIPE=86 ETIME=62 ETIMEDOUT=110 ETOOMANYREFS=109 ETXTBSY=26 EUCLEAN=117 EUNATCH=49 EUSERS=87",
       "EWOULDBLOCK=11 EXDEV=18 EXFULL=54"]),
   ("gc", words
      ["DEBUG_COLLECTABLE=2 DEBUG_LEAK=38 DEBUG_SAVEALL=32 DEBUG_STATS=1 DEBUG_UNCOLLECTABLE=4"]),
   ("inspect", words
      ["CO_ASYNC_GENERATOR=512 CO_COROUTINE=128 CO_GENERATOR=32 CO_ITERABLE_COROUTINE=256 CO_NESTED=16",
       "CO_NEWLOCALS=2 CO_NOFREE=64 CO_OPTIMIZED=1 CO_VARARGS=4 CO_VARKEYWORDS=8 TPFLAGS_IS_ABSTRACT=1048576"]),
   ("io", words
      ["DEFAULT_BUFFER_SIZE=8192 SEEK_CUR=1 SEEK_END=2 SEEK_SET=0"]),
   ("locale", words
      ["ABDAY_1=131072 ABDAY_2=131073 ABDAY_3=131074 ABDAY_4=131075 ABDAY_5=131076 ABDAY_6=131077",
       "ABDAY_7=131078 ABMON_1=131086 ABMON_10=131095 ABMON_11=131096 ABMON_12=131097 ABMON_2=131087",
       "ABMON_3=131088 ABMON_4=131089 ABMON_5=131090 ABMON_6=131091 ABMON_7=131092 ABMON_8=131093",
       "ABMON_9=131094 ALT_DIGITS=131119 AM_STR=131110 CHAR_MAX=127 CODESET=14 CRNCYSTR=262159 DAY_1=131079",
       "DAY_2=131080 DAY_3=131081 DAY_4=131082 DAY_5=131083 DAY_6=131084 DAY_7=131085 D_FMT=131113",
       "D_T_FMT=131112 ERA=131116 ERA_D_FMT=131118 ERA_D_T_FMT=131120 ERA_T_FMT=131121 LC_ALL=6 LC_COLLATE=3",
       "LC_CTYPE=0 LC_MESSAGES=5 LC_MONETARY=4 LC_NUMERIC=1 LC_TIME=2 MON_1=131098 MON_10=131107",
       "MON_11=131108 MON_12=131109 MON_2=131099 MON_3=131100 MON_4=131101 MON_5=131102 MON_6=131103",
       "MON_7=131104 MON_8=131105 MON_9=131106 NOEXPR=327681 PM_STR=131111 RADIXCHAR=65536 THOUSEP=65537",
       "T_FMT=131114 T_FMT_AMPM=131115 YESEXPR=327680"]),
   ("logging", words
      ["CRITICAL=50 DEBUG=10 ERROR=40 FATAL=50 INFO=20 NOTSET=0 WARN=30 WARNING=30"]),
   ("logging.handlers", words
      ["DEFAULT_HTTP_LOGGING_PORT=9022 DEFAULT_SOAP_LOGGING_PORT=9023 DEFAULT_TCP_LOGGING_PORT=9020",
       "DEFAULT_UDP_LOGGING_PORT=9021 ST_DEV=2 ST_INO=1 ST_MTIME=8 SYSLOG_TCP_PORT=514 SYSLOG_UDP_PORT=514"]),
   ("lzma", words
      ["CHECK_CRC32=1 CHECK_CRC64=4 CHECK_ID_MAX=15 CHECK_NONE=0 CHECK_SHA256=10 CHECK_UNKNOWN=16",
       "FILTER_ARM=7 FILTER_ARMTHUMB=8 FILTER_DELTA=3 FILTER_IA64=6 FILTER_LZMA1=4611686018427387905",
       "FILTER_LZMA2=33 FILTER_POWERPC=5 FILTER_SPARC=9 FILTER_X86=4 FORMAT_ALONE=2 FORMAT_AUTO=0",
       "FORMAT_RAW=3 FORMAT_XZ=1 MF_BT2=18 MF_BT3=19 MF_BT4=20 MF_HC3=3 MF_HC4=4 MODE_FAST=1 MODE_NORMAL=2",
       "PRESET_DEFAULT=6 PRESET_EXTREME=2147483648"]),
   ("opcode", words
      ["EXTENDED_ARG=144 HAVE_ARGUMENT=90"]),
   ("os", words
      ["CLD_CONTINUED=6 CLD_DUMPED=3 CLD_EXITED=1 CLD_KILLED=2 CLD_STOPPED=5 CLD_TRAPPED=4",
       "EFD_CLOEXEC=524288 EFD_NONBLOCK=2048 EFD_SEMAPHORE=1 EX_CANTCREAT=73 EX_CONFIG=78 EX_DATAERR=65",
       "EX_IOERR=74 EX_NOHOST=68 EX_NOINPUT=66 EX_NOPERM=77 EX_NOUSER=67 EX_OK=0 EX_OSERR=71 EX_OSFILE=72",
       "EX_PROTOCOL=76 EX_SOFTWARE=70 EX_TEMPFAIL=75 EX_UNAVAILABLE=69 EX_USAGE=64 F_LOCK=1 F_OK=0 F_TEST=3",
       "F_TLOCK=2 F_ULOCK=0 NGROUPS_MAX=65536 O_ACCMODE=3 O_APPEND=1024 O_ASYNC=8192 O_CLOEXEC=524288",
       "O_CREAT=64 O_DIRECT=16384 O_DIRECTORY=65536 O_DSYNC=4096 O_EXCL=128 O_FSYNC=1052672 O_LARGEFILE=0",
       "O_NDELAY=2048 O_NOATIME=262144 O_NOCTTY=256 O_NOFOLLOW=131072 O_NONBLOCK=2048 O_PATH=2097152",
       "O_RDONLY=0 O_RDWR=2 O_RSYNC=1052672 O_SYNC=1052672 O_TMPFILE=4259840 O_TRUNC=512 O_WRONLY=1",
       "POSIX_FADV_DONTNEED=4 POSIX_FADV_NOREUSE=5 POSIX_FADV_NORMAL=0 POSIX_FADV_RANDOM=1",
       "POSIX_FADV_SEQUENTIAL=2 POSIX_FADV_WILLNEED=3 POSIX_SPAWN_CLOSE=1 POSIX_SPAWN_DUP2=2",
       "POSIX_SPAWN_OPEN=0 PRIO_PGRP=1 PRIO_PROCESS=0 PRIO_USER=2 P_ALL=0 P_NOWAIT=1 P_NOWAITO=1 P_PGID=2",
       "P_PID=1 P_WAIT=0 RTLD_DEEPBIND=8 RTLD_GLOBAL=256 RTLD_LAZY=1 RTLD_LOCAL=0 RTLD_NODELETE=4096",
       "RTLD_NOLOAD=4 RTLD_NOW=2 R_OK=4 SCHED_BATCH=3 SCHED_FIFO=1 SCHED_IDLE=5 SCHED_OTHER=0",
       "SCHED_RESET_ON_FORK=1073741824 SCHED_RR=2 SEEK_CUR=1 SEEK_DATA=3 SEEK_END=2 SEEK_HOLE=4 SEEK_SET=0",
       "SPLICE_F_MORE=4 SPLICE_F_MOVE=1 SPLICE_F_NONBLOCK=2 ST_APPEND=256 ST_MANDLOCK=64 ST_NOATIME=1024",
       "ST_NODEV=4 ST_NODIRATIME=2048 ST_NOEXEC=8 ST_NOSUID=2 ST_RDONLY=1 ST_RELATIME=4096 ST_SYNCHRONOUS=16",
       "ST_WRITE=128 TMP_MAX=238328 WCONTINUED=8 WEXITED=4 WNOHANG=1 WNOWAIT=16777216 WSTOPPED=2 WUNTRACED=2",
       "W_OK=2 XATTR_CREATE=1 XATTR_REPLACE=2 XATTR_SIZE_MAX=65536 X_OK=1"]),
   ("pathlib", words
      ["EBADF=9 ELOOP=40 ENOENT=2 ENOTDIR=20"]),
   ("pickle", words
      ["DEFAULT_PROTOCOL=4 HIGHEST_PROTOCOL=5 maxsize=9223372036854775807"]),
   ("select", words
      ["EPOLLERR=8 EPOLLET=2147483648 EPOLLHUP=16 EPOLLIN=1 EPOLLMSG=1024 EPOLLONESHOT=1073741824 EPOLLOUT=4",
       "EPOLLPRI=2 EPOLLRDBAND=128 EPOLLRDHUP=8192 EPOLLRDNORM=64 EPOLLWRBAND=512 EPOLLWRNORM=256",
       "EPOLL_CLOEXEC=524288 PIPE_BUF=4096 POLLERR=8 POLLHUP=16 POLLIN=1 POLLMSG=1024 POLLNVAL=32 POLLOUT=4",
       "POLLPRI=2 POLLRDBAND=128 POLLRDHUP=8192 POLLRDNORM=64 POLLWRBAND=512 POLLWRNORM=256"]),
   ("selectors", words
      ["EVENT_READ=1 EVENT_WRITE=2"]),
   ("shutil", words
      ["COPY_BUFSIZE=65536"]),
   ("signal", words
      ["ITIMER_PROF=2 ITIMER_REAL=0 ITIMER_VIRTUAL=1 NSIG=65"]),
   ("sqlite3", words
      ["PARSE_COLNAMES=2 PARSE_DECLTYPES=1 SQLITE_ABORT=4 SQLITE_ABORT_ROLLBACK=516 SQLITE_ALTER_TABLE=26",
       "SQLITE_ANALYZE=28 SQLITE_ATTACH=24 SQLITE_AUTH=23 SQLITE_AUTH_USER=279 SQLITE_BUSY=5",
       "SQLITE_BUSY_RECOVERY=261 SQLITE_BUSY_SNAPSHOT=517 SQLITE_BUSY_TIMEOUT=773 SQLITE_CANTOPEN=14",
       "SQLITE_CANTOPEN_CONVPATH=1038 SQLITE_CANTOPEN_DIRTYWAL=1294 SQLITE_CANTOPEN_FULLPATH=782",
       "SQLITE_CANTOPEN_ISDIR=526 SQLITE_CANTOPEN_NOTEMPDIR=270 SQLITE_CANTOPEN_SYMLINK=1550",
       "SQLITE_CONSTRAINT=19 SQLITE_CONSTRAINT_CHECK=275 SQLITE_CONSTRAINT_COMMITHOOK=531",
       "SQLITE_CONSTRAINT_FOREIGNKEY=787 SQLITE_CONSTRAINT_FUNCTION=1043 SQLITE_CONSTRAINT_NOTNULL=1299",
       "SQLITE_CONSTRAINT_PINNED=2835 SQLITE_CONSTRAINT_PRIMARYKEY=1555 SQLITE_CONSTRAINT_ROWID=2579",
       "SQLITE_CONSTRAINT_TRIGGER=1811 SQLITE_CONSTRAINT_UNIQUE=2067 SQLITE_CONSTRAINT_VTAB=2323",
       "SQLITE_CORRUPT=11 SQLITE_CORRUPT_INDEX=779 SQLITE_CORRUPT_SEQUENCE=523 SQLITE_CORRUPT_VTAB=267",
       "SQLITE_CREATE_INDEX=1 SQLITE_CREATE_TABLE=2 SQLITE_CREATE_TEMP_INDEX=3 SQLITE_CREATE_TEMP_TABLE=4",
       "SQLITE_CREATE_TEMP_TRIGGER=5 SQLITE_CREATE_TEMP_VIEW=6 SQLITE_CREATE_TRIGGER=7 SQLITE_CREATE_VIEW=8",
       "SQLITE_CREATE_VTABLE=29 SQLITE_DELETE=9 SQLITE_DENY=1 SQLITE_DETACH=25 SQLITE_DONE=101",
       "SQLITE_DROP_INDEX=10 SQLITE_DROP_TABLE=11 SQLITE_DROP_TEMP_INDEX=12 SQLITE_DROP_TEMP_TABLE=13",
       "SQLITE_DROP_TEMP_TRIGGER=14 SQLITE_DROP_TEMP_VIEW=15 SQLITE_DROP_TRIGGER=16 SQLITE_DROP_VIEW=17",
       "SQLITE_DROP_VTABLE=30 SQLITE_EMPTY=16 SQLITE_ERROR=1 SQLITE_ERROR_MISSING_COLLSEQ=257",
       "SQLITE_ERROR_RETRY=513 SQLITE_ERROR_SNAPSHOT=769 SQLITE_FORMAT=24 SQLITE_FULL=13 SQLITE_FUNCTION=31",
       "SQLITE_IGNORE=2 SQLITE_INSERT=18 SQLITE_INTERNAL=2 SQLITE_INTERRUPT=9 SQLITE_IOERR=10",
       "SQLITE_IOERR_ACCESS=3338 SQLITE_IOERR_AUTH=7178 SQLITE_IOERR_BEGIN_ATOMIC=7434",
       "SQLITE_IOERR_BLOCKED=2826 SQLITE_IOERR_CHECKRESERVEDLOCK=3594 SQLITE_IOERR_CLOSE=4106",
       "SQLITE_IOERR_COMMIT_ATOMIC=7690 SQLITE_IOERR_CONVPATH=6666 SQLITE_IOERR_CORRUPTFS=8458",
       "SQLITE_IOERR_DATA=8202 SQLITE_IOERR_DELETE=2570 SQLITE_IOERR_DELETE_NOENT=5898",
       "SQLITE_IOERR_DIR_CLOSE=4362 SQLITE_IOERR_DIR_FSYNC=1290 SQLITE_IOERR_FSTAT=1802",
       "SQLITE_IOERR_FSYNC=1034 SQLITE_IOERR_GETTEMPPATH=6410 SQLITE_IOERR_LOCK=3850 SQLITE_IOERR_MMAP=6154",
       "SQLITE_IOERR_NOMEM=3082 SQLITE_IOERR_RDLOCK=2314 SQLITE_IOERR_READ=266",
       "SQLITE_IOERR_ROLLBACK_ATOMIC=7946 SQLITE_IOERR_SEEK=5642 SQLITE_IOERR_SHMLOCK=5130",
       "SQLITE_IOERR_SHMMAP=5386 SQLITE_IOERR_SHMOPEN=4618 SQLITE_IOERR_SHMSIZE=4874",
       "SQLITE_IOERR_SHORT_READ=522 SQLITE_IOERR_TRUNCATE=1546 SQLITE_IOERR_UNLOCK=2058",
       "SQLITE_IOERR_VNODE=6922 SQLITE_IOERR_WRITE=778 SQLITE_LIMIT_ATTACHED=7 SQLITE_LIMIT_COLUMN=2",
       "SQLITE_LIMIT_COMPOUND_SELECT=4 SQLITE_LIMIT_EXPR_DEPTH=3 SQLITE_LIMIT_FUNCTION_ARG=6",
       "SQLITE_LIMIT_LENGTH=0 SQLITE_LIMIT_LIKE_PATTERN_LENGTH=8 SQLITE_LIMIT_SQL_LENGTH=1",
       "SQLITE_LIMIT_TRIGGER_DEPTH=10 SQLITE_LIMIT_VARIABLE_NUMBER=9 SQLITE_LIMIT_VDBE_OP=5",
       "SQLITE_LIMIT_WORKER_THREADS=11 SQLITE_LOCKED=6 SQLITE_LOCKED_SHAREDCACHE=262 SQLITE_LOCKED_VTAB=518",
       "SQLITE_MISMATCH=20 SQLITE_MISUSE=21 SQLITE_NOLFS=22 SQLITE_NOMEM=7 SQLITE_NOTADB=26",
       "SQLITE_NOTFOUND=12 SQLITE_NOTICE=27 SQLITE_NOTICE_RECOVER_ROLLBACK=539 SQLITE_NOTICE_RECOVER_WAL=283",
       "SQLITE_OK=0 SQLITE_OK_LOAD_PERMANENTLY=256 SQLITE_OK_SYMLINK=512 SQLITE_PERM=3 SQLITE_PRAGMA=19",
       "SQLITE_PROTOCOL=15 SQLITE_RANGE=25 SQLITE_READ=20 SQLITE_READONLY=8 SQLITE_READONLY_CANTINIT=1288",
       "SQLITE_READONLY_CANTLOCK=520 SQLITE_READONLY_DBMOVED=1032 SQLITE_READONLY_DIRECTORY=1544",
       "SQLITE_READONLY_RECOVERY=264 SQLITE_READONLY_ROLLBACK=776 SQLITE_RECURSIVE=33 SQLITE_REINDEX=27",
       "SQLITE_ROW=100 SQLITE_SAVEPOINT=32 SQLITE_SCHEMA=17 SQLITE_SELECT=21 SQLITE_TOOBIG=18",
       "SQLITE_TRANSACTION=22 SQLITE_UPDATE=23 SQLITE_WARNING=28 SQLITE_WARNING_AUTOINDEX=284 threadsafety=3"]),
   ("ssl", words
      ["OPENSSL_VERSION_NUMBER=805306608 SOL_SOCKET=1 SO_TYPE=3"]),
   ("stat", words
      ["FILE_ATTRIBUTE_ARCHIVE=32 FILE_ATTRIBUTE_COMPRESSED=2048 FILE_ATTRIBUTE_DEVICE=64",
       "FILE_ATTRIBUTE_DIRECTORY=16 FILE_ATTRIBUTE_ENCRYPTED=16384 FILE_ATTRIBUTE_HIDDEN=2",
       "FILE_ATTRIBUTE_INTEGRITY_STREAM=32768 FILE_ATTRIBUTE_NORMAL=128",
       "FILE_ATTRIBUTE_NOT_CONTENT_INDEXED=8192 FILE_ATTRIBUTE_NO_SCRUB_DATA=131072",
       "FILE_ATTRIBUTE_OFFLINE=4096 FILE_ATTRIBUTE_READONLY=1 FILE_ATTRIBUTE_REPARSE_POINT=1024",
       "FILE_ATTRIBUTE_SPARSE_FILE=512 FILE_ATTRIBUTE_SYSTEM=4 FILE_ATTRIBUTE_TEMPORARY=256",
       "FILE_ATTRIBUTE_VIRTUAL=65536 SF_APPEND=262144 SF_ARCHIVED=65536 SF_IMMUTABLE=131072",
       "SF_NOUNLINK=1048576 SF_SNAPSHOT=2097152 ST_ATIME=7 ST_CTIME=9 ST_DEV=2 ST_GID=5 ST_INO=1 ST_MODE=0",
       "ST_MTIME=8 ST_NLINK=3 ST_SIZE=6 ST_UID=4 S_ENFMT=1024 S_IEXEC=64 S_IFBLK=24576 S_IFCHR=8192",
       "S_IFDIR=16384 S_IFDOOR=0 S_IFIFO=4096 S_IFLNK=40960 S_IFPORT=0 S_IFREG=32768 S_IFSOCK=49152",
       "S_IFWHT=0 S_IREAD=256 S_IRGRP=32 S_IROTH=4 S_IRUSR=256 S_IRWXG=56 S_IRWXO=7 S_IRWXU=448 S_ISGID=1024",
       "S_ISUID=2048 S_ISVTX=512 S_IWGRP=16 S_IWOTH=2 S_IWRITE=128 S_IWUSR=128 S_IXGRP=8 S_IXOTH=1",
       "S_IXUSR=64 UF_APPEND=4 UF_COMPRESSED=32 UF_HIDDEN=32768 UF_IMMUTABLE=2 UF_NODUMP=1 UF_NOUNLINK=16",
       "UF_OPAQUE=8"]),
   ("subprocess", words
      ["DEVNULL=-3 PIPE=-1 STDOUT=-2"]),
   ("sys", words
      ["api_version=1013 hexversion=51055344 maxsize=9223372036854775807 maxunicode=1114111"]),
   ("syslog", words
      ["LOG_ALERT=1 LOG_AUTH=32 LOG_AUTHPRIV=80 LOG_CONS=2 LOG_CRIT=2 LOG_CRON=72 LOG_DAEMON=24 LOG_DEBUG=7",
       "LOG_EMERG=0 LOG_ERR=3 LOG_INFO=6 LOG_KERN=0 LOG_LOCAL0=128 LOG_LOCAL1=136 LOG_LOCAL2=144",
       "LOG_LOCAL3=152 LOG_LOCAL4=160 LOG_LOCAL5=168 LOG_LOCAL6=176 LOG_LOCAL7=184 LOG_LPR=48 LOG_MAIL=16",
       "LOG_NDELAY=8 LOG_NEWS=56 LOG_NOTICE=5 LOG_NOWAIT=16 LOG_ODELAY=4 LOG_PERROR=32 LOG_PID=1",
       "LOG_SYSLOG=40 LOG_USER=8 LOG_UUCP=64 LOG_WARNING=4"]),
   ("tarfile", words
      ["BLOCKSIZE=512 DEFAULT_FORMAT=2 GNU_FORMAT=1 LENGTH_LINK=100 LENGTH_NAME=100 LENGTH_PREFIX=155",
       "PAX_FORMAT=2 RECORDSIZE=10240 USTAR_FORMAT=0"]),
   ("tempfile", words
      ["TMP_MAX=238328"]),
   ("time", words
      ["CLOCK_BOOTTIME=7 CLOCK_MONOTONIC=1 CLOCK_MONOTONIC_RAW=4 CLOCK_PROCESS_CPUTIME_ID=2 CLOCK_REALTIME=0",
       "CLOCK_THREAD_CPUTIME_ID=3 altzone=0 daylight=0 timezone=0"]),
   ("timeit", words
      ["default_number=1000000 default_repeat=5"]),
   ("zipfile", words
      ["BZIP2_VERSION=46 DEFAULT_VERSION=20 LZMA_VERSION=63 MAX_EXTRACT_VERSION=63 ZIP64_LIMIT=2147483647",
       "ZIP64_VERSION=45 ZIP_BZIP2=12 ZIP_DEFLATED=8 ZIP_FILECOUNT_LIMIT=65535 ZIP_LZMA=14",
       "ZIP_MAX_COMMENT=65535 ZIP_STORED=0 sizeCentralDir=46 sizeEndCentDir=22 sizeEndCentDir64=56",
       "sizeEndCentDir64Locator=20 sizeFileHeader=30"]),
   ("zlib", words
      ["DEFLATED=8 DEF_BUF_SIZE=16384 DEF_MEM_LEVEL=8 MAX_WBITS=15 Z_BEST_COMPRESSION=9 Z_BEST_SPEED=1",
       "Z_BLOCK=5 Z_DEFAULT_COMPRESSION=-1 Z_DEFAULT_STRATEGY=0 Z_FILTERED=1 Z_FINISH=4 Z_FIXED=4",
       "Z_FULL_FLUSH=3 Z_HUFFMAN_ONLY=2 Z_NO_COMPRESSION=0 Z_NO_FLUSH=0 Z_PARTIAL_FLUSH=1 Z_RLE=3",
       "Z_SYNC_FLUSH=2 Z_TREES=6"])]

def standardTexts : List (String × String × String) :=
  [("asyncio", "ALL_COMPLETED", "ALL_COMPLETED"), ("asyncio", "FIRST_COMPLETED", "FIRST_COMPLETED"),
   ("asyncio", "FIRST_EXCEPTION", "FIRST_EXCEPTION"), ("decimal", "ROUND_05UP", "ROUND_05UP"),
   ("decimal", "ROUND_CEILING", "ROUND_CEILING"), ("decimal", "ROUND_DOWN", "ROUND_DOWN"),
   ("decimal", "ROUND_FLOOR", "ROUND_FLOOR"), ("decimal", "ROUND_HALF_DOWN", "ROUND_HALF_DOWN"),
   ("decimal", "ROUND_HALF_EVEN", "ROUND_HALF_EVEN"), ("decimal", "ROUND_HALF_UP", "ROUND_HALF_UP"),
   ("decimal", "ROUND_UP", "ROUND_UP"), ("inspect", "CORO_CLOSED", "CORO_CLOSED"),
   ("inspect", "CORO_CREATED", "CORO_CREATED"), ("inspect", "CORO_RUNNING", "CORO_RUNNING"),
   ("inspect", "CORO_SUSPENDED", "CORO_SUSPENDED"), ("inspect", "GEN_CLOSED", "GEN_CLOSED"),
   ("inspect", "GEN_CREATED", "GEN_CREATED"), ("inspect", "GEN_RUNNING", "GEN_RUNNING"),
   ("inspect", "GEN_SUSPENDED", "GEN_SUSPENDED"),
   ("logging", "BASIC_FORMAT", "%(levelname)s:%(name)s:%(message)s"), ("os", "curdir", "."),
   ("os", "defpath", "/bin:/usr/bin"), ("os", "devnull", "/dev/null"), ("os", "extsep", "."),
   ("os", "linesep", "\n"), ("os", "name", "posix"), ("os", "pardir", ".."), ("os", "pathsep", ":"),
   ("os", "sep", "/"), ("os.path", "curdir", "."), ("os.path", "defpath", "/bin:/usr/bin"),
   ("os.path", "devnull", "/dev/null"), ("os.path", "extsep", "."), ("os.path", "pardir", ".."),
   ("os.path", "pathsep", ":"), ("os.path", "sep", "/"), ("posixpath", "curdir", "."),
   ("posixpath", "defpath", "/bin:/usr/bin"), ("posixpath", "devnull", "/dev/null"),
   ("posixpath", "extsep", "."), ("posixpath", "pardir", ".."), ("posixpath", "pathsep", ":"),
   ("posixpath", "sep", "/"),
   ("string", "ascii_letters", "abcdefghijklmnopqrstuvwxyzABCDEFGHIJKLMNOPQRSTUVWXYZ"),
   ("string", "ascii_lowercase", "abcdefghijklmnopqrstuvwxyz"),
   ("string", "ascii_uppercase", "ABCDEFGHIJKLMNOPQRSTUVWXYZ"), ("string", "digits", "0123456789"),
   ("string", "hexdigits", "0123456789abcdefABCDEF"), ("string", "octdigits", "01234567"),
   ("string", "printable", "0123456789abcdefghijklmnopqrstuvwxyzABCDEFGHIJKLMNOPQRSTUVWXYZ!\"#$%&'()*+,-./:;<=>?@[\\]^_`\x7b|\x7d~ \t\n\r\x0b\x0c"),
   ("string", "punctuation", "!\"#$%&'()*+,-./:;<=>?@[\\]^_`\x7b|\x7d~"),
   ("string", "whitespace", " \t\n\r\x0b\x0c"), ("sys", "byteorder", "little"),
   ("sys", "float_repr_style", "short"), ("sys", "platform", "linux"), ("tempfile", "template", "tmp"),
   ("uuid", "RESERVED_FUTURE", "reserved for future definition"),
   ("uuid", "RESERVED_MICROSOFT", "reserved for Microsoft compatibility"),
   ("uuid", "RESERVED_NCS", "reserved for NCS compatibility"), ("uuid", "RFC_4122", "specified in RFC 4122")]

def standardValues : List (String × String × List (String × String)) :=
  [("base64", "tuple",
      [("bytes_types", "(<class 'bytes'>, <class 'bytearray'>)")]),
   ("calendar", "list",
      [("mdays", "[0, 31, 28, 31, 30, 31, 30, 31, 31, 30, 31, 30, 31]")]),
   ("cmath", "complex",
      [("infj", "infj"), ("nanj", "nanj")]),
   ("codecs", "bytes",
      [("BOM", "b'\\xff\\xfe'"), ("BOM32_BE", "b'\\xfe\\xff'"), ("BOM32_LE", "b'\\xff\\xfe'"),
       ("BOM64_BE", "b'\\x00\\x00\\xfe\\xff'"), ("BOM64_LE", "b'\\xff\\xfe\\x00\\x00'"),
       ("BOM_BE", "b'\\xfe\\xff'"), ("BOM_LE", "b'\\xff\\xfe'"), ("BOM_UTF16", "b'\\xff\\xfe'"),
       ("BOM_UTF16_BE", "b'\\xfe\\xff'"), ("BOM_UTF16_LE", "b'\\xff\\xfe'"),
       ("BOM_UTF32", "b'\\xff\\xfe\\x00\\x00'"), ("BOM_UTF32_BE", "b'\\x00\\x00\\xfe\\xff'"),
       ("BOM_UTF32_LE", "b'\\xff\\xfe\\x00\\x00'"), ("BOM_UTF8", "b'\\xef\\xbb\\xbf'")]),
   ("datetime", "timezone",
      [("UTC", "datetime.timezone.utc")]),
   ("decimal", "Context",
      [("ExtendedContext", "Context(prec=9, rounding=ROUND_HALF_EVEN, Emin=-999999, Emax=999999, capitals=1, clamp=0, flags=[], traps=[])")]),
   ("logging", "RootLogger",
      [("root", "<RootLogger root (WARNING)>")]),
   ("logging", "_StderrHandler",
      [("lastResort", "<_StderrHandler <stderr> (WARNING)>")]),
   ("re", "RegexFlag",
      [("A", "re.ASCII"), ("ASCII", "re.ASCII"), ("DEBUG", "re.DEBUG"), ("DOTALL", "re.DOTALL"),
       ("I", "re.IGNORECASE"), ("IGNORECASE", "re.IGNORECASE"), ("L", "re.LOCALE"), ("LOCALE", "re.LOCALE"),
       ("M", "re.MULTILINE"), ("MULTILINE", "re.MULTILINE"), ("NOFLAG", "re.NOFLAG"), ("S", "re.DOTALL"),
       ("T", "re.TEMPLATE"), ("TEMPLATE", "re.TEMPLATE"), ("U", "re.UNICODE"), ("UNICODE", "re.UNICODE"),
       ("VERBOSE", "re.VERBOSE"), ("X", "re.VERBOSE")]),
   ("signal", "Handlers",
      [("SIG_DFL", "<Handlers.SIG_DFL: 0>"), ("SIG_IGN", "<Handlers.SIG_IGN: 1>")]),
   ("signal", "Sigmasks",
      [("SIG_BLOCK", "<Sigmasks.SIG_BLOCK: 0>"), ("SIG_SETMASK", "<Sigmasks.SIG_SETMASK: 2>"),
       ("SIG_UNBLOCK", "<Sigmasks.SIG_UNBLOCK: 1>")]),
   ("signal", "Signals",
      [("SIGABRT", "<Signals.SIGABRT: 6>"), ("SIGALRM", "<Signals.SIGALRM: 14>"),
       ("SIGBUS", "<Signals.SIGBUS: 7>"), ("SIGCHLD", "<Signals.SIGCHLD: 17>"),
       ("SIGCLD", "<Signals.SIGCHLD: 17>"), ("SIGCONT", "<Signals.SIGCONT: 18>"),
       ("SIGFPE", "<Signals.SIGFPE: 8>"), ("SIGHUP", "<Signals.SIGHUP: 1>"),
       ("SIGILL", "<Signals.SIGILL: 4>"), ("SIGINT", "<Signals.SIGINT: 2>"),
       ("SIGIO", "<Signals.SIGIO: 29>"), ("SIGIOT", "<Signals.SIGABRT: 6>"),
       ("SIGKILL", "<Signals.SIGKILL: 9>"), ("SIGPIPE", "<Signals.SIGPIPE: 13>"),
       ("SIGPOLL", "<Signals.SIGIO: 29>"), ("SIGPROF", "<Signals.SIGPROF: 27>"),
       ("SIGPWR", "<Signals.SIGPWR: 30>"), ("SIGQUIT", "<Signals.SIGQUIT: 3>"),
       ("SIGRTMAX", "<Signals.SIGRTMAX: 64>"), ("SIGRTMIN", "<Signals.SIGRTMIN: 34>"),
       ("SIGSEGV", "<Signals.SIGSEGV: 11>"), ("SIGSTKFLT", "<Signals.SIGSTKFLT: 16>"),
       ("SIGSTOP", "<Signals.SIGSTOP: 19>"), ("SIGSYS", "<Signals.SIGSYS: 31>"),
       ("SIGTERM", "<Signals.SIGTERM: 15>"), ("SIGTRAP", "<Signals.SIGTRAP: 5>"),
       ("SIGTSTP", "<Signals.SIGTSTP: 20>"), ("SIGTTIN", "<Signals.SIGTTIN: 21>"),
       ("SIGTTOU", "<Signals.SIGTTOU: 22>"), ("SIGURG", "<Signals.SIGURG: 23>"),
       ("SIGUSR1", "<Signals.SIGUSR1: 10>"), ("SIGUSR2", "<Signals.SIGUSR2: 12>"),
       ("SIGVTALRM", "<Signals.SIGVTALRM: 26>"), ("SIGWINCH", "<Signals.SIGWINCH: 28>"),
       ("SIGXCPU", "<Signals.SIGXCPU: 24>"), ("SIGXFSZ", "<Signals.SIGXFSZ: 25>")]),
   ("socket", "AddressFamily",
      [("AF_INET", "<AddressFamily.AF_INET: 2>"), ("AF_INET6", "<AddressFamily.AF_INET6: 10>"),
       ("AF_UNIX", "<AddressFamily.AF_UNIX: 1>"), ("AF_UNSPEC", "<AddressFamily.AF_UNSPEC: 0>")]),
   ("socket", "SocketKind",
      [("SOCK_DGRAM", "<SocketKind.SOCK_DGRAM: 2>"), ("SOCK_RAW", "<SocketKind.SOCK_RAW: 3>"),
       ("SOCK_STREAM", "<SocketKind.SOCK_STREAM: 1>")]),
   ("sys", "sys.float_info",
      [("float_info",
        "sys.float_info(max=1.7976931348623157e+308, max_exp=1024, max_10_exp=308, min=2.2250738585072014e-308, " ++
          "min_exp=-1021, min_10_exp=-307, dig=15, mant_dig=53, epsilon=2.220446049250313e-16, radix=2, rounds=1)")]),
   ("sys", "sys.hash_info",
      [("hash_info",
        "sys.hash_info(width=64, modulus=2305843009213693951, inf=314159, nan=0, imag=1000003, " ++
          "algorithm='siphash13', hash_bits=64, seed_bits=128, cutoff=0)")]),
   ("sys", "sys.int_info",
      [("int_info",
        "sys.int_info(bits_per_digit=30, sizeof_digit=4, default_max_str_digits=4300, " ++
          "str_digits_check_threshold=640)")]),
   ("sys", "sys.version_info",
      [("version_info", "sys.version_info(major=3, minor=11, micro=2, releaselevel='final', serial=0)")]),
   ("time", "tuple",
      [("tzname", "('UTC', 'UTC')")]),
   ("uuid", "UUID",
      [("NAMESPACE_DNS", "UUID('6ba7b810-9dad-11d1-80b4-00c04fd430c8')"),
       ("NAMESPACE_OID", "UUID('6ba7b812-9dad-11d1-80b4-00c04fd430c8')"),
       ("NAMESPACE_URL", "UUID('6ba7b811-9dad-11d1-80b4-00c04fd430c8')"),
       ("NAMESPACE_X500", "UUID('6ba7b814-9dad-11d1-80b4-00c04fd430c8')")])]

def standardUnkeyable : List (String × String × List String) :=
  [("copy", "dict", ["dispatch_table"]), ("errno", "dict", ["errorcode"]), ("filecmp", "list", ["DEFAULT_IGNORES"]),
   ("hashlib", "set", ["algorithms_available", "algorithms_guaranteed"]),
   ("keyword", "list", ["kwlist", "softkwlist"]), ("linecache", "dict", ["cache"]),
   ("locale", "dict", ["locale_alias", "locale_encoding_alias", "windows_locale"]),
   ("os", "_Environ", ["environ", "environb"]),
   ("os", "dict", ["confstr_names", "pathconf_names", "sysconf_names"]),
   ("os", "set", words
      ["supports_dir_fd supports_effective_ids supports_fd supports_follow_symlinks"]),
   ("pickle", "dict", ["dispatch_table"]), ("pickle", "list", ["compatible_formats"]),
   ("sqlite3", "dict", ["adapters", "converters"]), ("sys", "dict", ["modules", "path_importer_cache"]),
   ("sys", "list", words
      ["argv meta_path orig_argv path path_hooks warnoptions"]),
   ("sys", "types.SimpleNamespace", ["implementation"]), ("warnings", "dict", ["onceregistry"]),
   ("warnings", "list", ["filters"])]

def standardUnlisted : List String :=
  words
    ["abc array ast asyncio atexit audioop binascii bisect builtins cmath concurrent concurrent.futures",
     "contextvars crypt ctypes ctypes.util curses datetime decimal email.contentmanager email.errors",
     "email.headerregistry email.mime encodings errno fcntl gc grp hashlib hmac importlib.machinery",
     "importlib.util ipaddress itertools json.encoder json.tool logging.config logging.handlers marshal math",
     "mmap platform posix pwd pyexpat readline resource select selectors signal site sqlite3 sqlite3.dbapi2",
     "ssl stat stringprep sys syslog termios time tomllib tracemalloc unicodedata unittest.case unittest.mock",
     "urllib uuid venv wsgiref xml.dom xml.dom.minidom xml.etree xml.etree.ElementInclude",
     "xml.etree.ElementPath xml.parsers xml.parsers.expat xml.sax xml.sax.handler xml.sax.saxutils",
     "xml.sax.xmlreader xmlrpc zlib"]

def standardTruths : List (String × String × Bool) :=
  [("decimal", "HAVE_CONTEXTVAR", true), ("decimal", "HAVE_THREADS", true), ("logging", "logMultiprocessing", true),
   ("logging", "logProcesses", true), ("logging", "logThreads", true), ("logging", "raiseExceptions", true),
   ("os", "supports_bytes_environ", true), ("sys", "dont_write_bytecode", false)]

end Wiring.Container.Library
