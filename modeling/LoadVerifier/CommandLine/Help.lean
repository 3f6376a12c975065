/-
This file holds the text that a call for help prints.
-/

namespace LoadVerifier.Help

/-- How the program is called. -/
def usage : List String := [
    "usage: pgkvload [--help] [--dsn DSN] [-h HOST] [-p PORT] [-U USER] [-d DBNAME]",
    "                [--password PASSWORD] [--sslmode SSLMODE] [--options OPTIONS]",
    "                [--print-psql] [--memory] [--table TABLE] [--schema SCHEMA]",
    "                [--logged] [--drop-existing] [--compression \x7bpglz,lz4\x7d]",
    "                [--synchronous-commit] [--write SPEC] [--read SPEC]",
    "                [--data SPEC] [--multiput] [--max-read-errors MAX_READ_ERRORS]",
    "                [--key-window KEY_WINDOW] --start-key START_KEY --num-keys",
    "                NUM_KEYS [--progress-interval PROGRESS_INTERVAL] [--seed SEED]"]

/-- What the program does, and what each option means. -/
def explanation : List String := [
    "",
    "Write, read and verify a deterministic dataset in a key-value table.",
    "",
    "options:",
    "  --help, -?            show this help message and exit",
    "  --dsn DSN             libpq DSN. Overrides -h/-p/-U/-d.",
    "  -h HOST, --host HOST  database server host or socket directory (psql",
    "                        compatible).",
    "  -p PORT, --port PORT  database server port (psql compatible).",
    "  -U USER, --user USER  database user name (psql compatible).",
    "  -d DBNAME, --dbname DBNAME",
    "                        database name (psql compatible).",
    "  --password PASSWORD   database password (or use PGPASSWORD env / .pgpass).",
    "  --sslmode SSLMODE     sslmode (require, verify-full, etc.).",
    "  --options OPTIONS     libpq options string (e.g., \"-c statement_timeout=0\").",
    "  --print-psql          Print equivalent psql command and exit.",
    "  --memory              Use an in-process store instead of PostgreSQL (dry",
    "                        run).",
    "  --table TABLE         Name of the table to read or write.",
    "  --schema SCHEMA       Schema holding the table.",
    "  --logged              Create a LOGGED table (default UNLOGGED for speed).",
    "  --drop-existing       Drop the table before creating it.",
    "  --compression \x7bpglz,lz4\x7d",
    "                        Compression for the value column.",
    "  --synchronous-commit  Keep synchronous_commit on for worker sessions",
    "                        (default off).",
    "  --write SPEC          <avg_cols_per_key>:<avg_data_size>[:<#threads=20>]",
    "  --read SPEC           <verify_percent>[:<#threads=20>]",
    "  --data SPEC           <avg_cols_per_key>:<avg_data_size>: generation sizes",
    "                        of the data a read-only pass verifies.",
    "  --multiput            Write each row with one call instead of one call per",
    "                        column.",
    "  --max-read-errors MAX_READ_ERRORS",
    "                        Read errors to tolerate before stopping all reader",
    "                        threads.",
    "  --key-window KEY_WINDOW",
    "                        Keys to stay behind the write watermark in a",
    "                        concurrent read/write run.",
    "  --start-key START_KEY",
    "                        The first key to read/write.",
    "  --num-keys NUM_KEYS   The number of keys to read/write.",
    "  --progress-interval PROGRESS_INTERVAL",
    "                        Seconds between progress prints (0 disables).",
    "  --seed SEED           Base RNG seed for sampling."]

/-- The whole text. -/
def text : List String := usage ++ explanation

end LoadVerifier.Help
